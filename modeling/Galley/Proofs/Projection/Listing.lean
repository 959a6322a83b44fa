import Mathlib.Data.List.AList
import Galley.Proofs.Projection.Tick

/-!
# Listings

What clients see of the templates is a listing: newest first, and templates of the same instant in
the order of their identifiers. The same listing, as JSON, is what a checkpoint keeps. So it has two
things to be. It must not show in which order the map of summaries happened to be gone through, and
nothing of the map may be lost in it.

The first is a matter of the order: summaries of different templates are never tied
(`Summary.Precedes`), so there is one list of them in that order and no other. The second rests on
the JSON of summaries, in which every instant is written in full, years of five digits and leap
seconds included. A map is taken here as its entries in any order (`SummaryMap`); the catalog that
goes with it is the one that gives the same summary for every identifier (`Catalog.Represents`).

Main results:

* `Summary.sort_eq_of_perm` — sorting does not show in which order the summaries came.
* `HasOwnIds.isListing_iff` — a map has one listing.
* `HasOwnIds.exists_catalog` — a map is read back from the JSON of its listing.
* `HasSaved.restartsAlike` — a follower that is restarted goes on as if nothing had happened.
* `survives_restart` — all of this for any map whose summaries are stored under their own
  identifiers.
-/

namespace Galley

-- ---------------------------------------------------------------------------
-- The order of instants
-- ---------------------------------------------------------------------------

namespace Instant

/-- Whether an instant comes before another one: the first field in which they differ decides. -/
def IsBefore (a b : Instant) : Prop :=
  a.year < b.year ∨ a.year = b.year ∧ (a.month < b.month ∨ a.month = b.month ∧
    (a.day < b.day ∨ a.day = b.day ∧ (a.second < b.second ∨ a.second = b.second ∧
      a.nano < b.nano)))

instance (a b : Instant) : Decidable (a.IsBefore b) := inferInstanceAs (Decidable (_ ∨ _))

variable {a b c : Instant}

/-- Instants are compared field by field. -/
theorem compare_eq : a.compare b = (Ord.compare a.year b.year).then
    ((Ord.compare (a.month : Int) b.month).then ((Ord.compare (a.day : Int) b.day).then
      ((Ord.compare (a.second : Int) b.second).then (Ord.compare (a.nano : Int) b.nano)))) := by
  simp [compare, key]

theorem compare_eq_lt : a.compare b = .lt ↔ a.IsBefore b := by
  simp only [compare_eq, Ordering.then_eq_lt, Int.compare_eq_lt, Int.compare_eq_eq, Int.ofNat_lt,
    Int.natCast_inj, IsBefore]

theorem compare_eq_gt : a.compare b = .gt ↔ b.IsBefore a :=
  (Std.OrientedCmp.gt_iff_lt (a := a.key)).trans compare_eq_lt

theorem compare_eq_eq : a.compare b = .eq ↔ a = b := by
  obtain ⟨_, _, _, _, _, _, _⟩ := a
  obtain ⟨_, _, _, _, _, _, _⟩ := b
  simp only [compare_eq, Ordering.then_eq_eq, Int.compare_eq_eq, Int.natCast_inj, mk.injEq]

theorem IsBefore.trans (hab : a.IsBefore b) (hbc : b.IsBefore c) : a.IsBefore c := by
  rw [IsBefore] at hab hbc ⊢
  omega

theorem IsBefore.irrefl : ¬ a.IsBefore a := by
  rw [IsBefore]
  omega

end Instant

-- ---------------------------------------------------------------------------
-- The order of the listing
-- ---------------------------------------------------------------------------

namespace Summary

/-- Whether a summary stands before another one in a listing: it is newer, or as new and of a lower
identifier. -/
def Precedes (a b : Summary) : Prop :=
  b.createdAt.IsBefore a.createdAt ∨ a.createdAt = b.createdAt ∧ a.id.value < b.id.value

instance (a b : Summary) : Decidable (a.Precedes b) := inferInstanceAs (Decidable (_ ∨ _))

variable {a b c : Summary} {rows rows' : List Summary}

theorem Precedes.trans (hab : a.Precedes b) (hbc : b.Precedes c) : a.Precedes c := by
  rcases hab with hab | ⟨hTime, hab⟩
  · rcases hbc with hbc | ⟨hTime', -⟩
    · exact .inl (hbc.trans hab)
    · exact .inl (hTime' ▸ hab)
  · rcases hbc with hbc | ⟨hTime', hbc⟩
    · exact .inl (hTime ▸ hbc)
    · exact .inr ⟨hTime.trans hTime', Nat.lt_trans hab hbc⟩

theorem Precedes.irrefl : ¬ a.Precedes a := by
  rintro (hTime | ⟨-, hId⟩)
  · exact hTime.irrefl
  · exact Nat.lt_irrefl _ hId

/-- Two summaries may be listed in one order if it is the strict one, or if they cannot be told
apart by it. -/
theorem listedBefore_iff :
    a.listedBefore b = true ↔ a.Precedes b ∨ a.createdAt = b.createdAt ∧ a.id = b.id := by
  rw [listedBefore, Precedes]
  cases hTime : Instant.compare b.createdAt a.createdAt with
  | lt => simp only [Instant.compare_eq_lt.mp hTime, true_or]
  | gt =>
    have hNewer := Instant.compare_eq_gt.mp hTime
    have hNotOlder : ¬ b.createdAt.IsBefore a.createdAt := fun h => (h.trans hNewer).irrefl
    have hNotEqual : a.createdAt ≠ b.createdAt := fun h => (h ▸ hNewer).irrefl
    simp only [hNotOlder, hNotEqual, false_and, or_self, Bool.false_eq_true]
  | eq =>
    have hEqual := Instant.compare_eq_eq.mp hTime
    simp only [hEqual, Instant.IsBefore.irrefl, true_and, false_or,
      Ordering.isLE_iff_eq_lt_or_eq_eq, Uuid.compare_eq_lt, Uuid.compare_eq_eq]

theorem listedBefore_trans (a b c : Summary) (hab : a.listedBefore b = true)
    (hbc : b.listedBefore c = true) : a.listedBefore c = true := by
  rw [listedBefore_iff] at hab hbc ⊢
  rcases hab with hab | ⟨hTime, hId⟩
  · rcases hbc with hbc | ⟨hTime, hId⟩
    · exact .inl (hab.trans hbc)
    · rw [Precedes, ← hTime, ← hId]
      exact .inl hab
  · rw [Precedes, hTime, hId]
    exact hbc

/-- Of two rows one may always be listed before the other. -/
theorem listedBefore_total (a b : Summary) : (a.listedBefore b || b.listedBefore a) = true := by
  rw [Bool.or_eq_true, listedBefore_iff, listedBefore_iff, Precedes, Precedes]
  cases hTime : Instant.compare a.createdAt b.createdAt with
  | lt => exact .inr (.inl (.inl (Instant.compare_eq_lt.mp hTime)))
  | gt => exact .inl (.inl (.inl (Instant.compare_eq_gt.mp hTime)))
  | eq =>
    have hEqual := Instant.compare_eq_eq.mp hTime
    cases hId : Uuid.compare a.id b.id with
    | lt => exact .inl (.inl (.inr ⟨hEqual, Uuid.compare_eq_lt.mp hId⟩))
    | eq => exact .inl (.inr ⟨hEqual, Uuid.compare_eq_eq.mp hId⟩)
    | gt => exact .inr (.inl (.inr ⟨hEqual.symm, Uuid.compare_eq_gt.mp hId⟩))

/-- Once they are sorted, no summary stands behind one that it precedes. -/
theorem pairwise_sort (rows : List Summary) :
    (rows.mergeSort listedBefore).Pairwise fun a b => ¬ b.Precedes a := by
  refine (List.pairwise_mergeSort listedBefore_trans listedBefore_total rows).imp ?_
  intro a b hab hba
  rcases listedBefore_iff.mp hab with hab | ⟨hTime, hId⟩
  · exact (hab.trans hba).irrefl
  · rw [Precedes, hTime, hId] at hba
    exact Precedes.irrefl (a := b) hba

/-- Summaries of different templates stand in the strict order once they are sorted. -/
theorem pairwise_precedes_sort (hIds : (rows.map id).Nodup) :
    (rows.mergeSort listedBefore).Pairwise Precedes := by
  have hSorted := List.pairwise_mergeSort listedBefore_trans listedBefore_total rows
  have hDiffer : (rows.mergeSort listedBefore).Pairwise fun a b => a.id ≠ b.id :=
    List.pairwise_map.mp ((((List.mergeSort_perm rows listedBefore).map id).nodup_iff).mpr hIds)
  refine hSorted.imp₂ (fun a b hab hne => ?_) hDiffer
  exact (listedBefore_iff.mp hab).resolve_right fun hSame => hne hSame.2

/-- There is only one strict order of the same summaries. -/
theorem eq_of_pairwise_precedes (hRows : rows.Pairwise Precedes) (hRows' : rows'.Pairwise Precedes)
    (hPerm : rows.Perm rows') : rows = rows' :=
  hPerm.eq_of_pairwise (fun _ _ _ _ hab hba => absurd (hab.trans hba) Precedes.irrefl) hRows hRows'

/-- **Sorting does not show in which order the summaries came.** -/
theorem sort_eq_of_perm (hIds : (rows.map id).Nodup) (hPerm : rows.Perm rows') :
    rows.mergeSort listedBefore = rows'.mergeSort listedBefore := by
  have hIds' : (rows'.map id).Nodup := ((hPerm.map id).nodup_iff).mp hIds
  refine eq_of_pairwise_precedes (pairwise_precedes_sort hIds) (pairwise_precedes_sort hIds') ?_
  exact (List.mergeSort_perm rows _).trans (hPerm.trans (List.mergeSort_perm rows' _).symm)

end Summary

-- ---------------------------------------------------------------------------
-- Maps in any order
-- ---------------------------------------------------------------------------

/-- A map from identifiers to summaries, with its entries in the order in which it is gone
through. -/
abbrev SummaryMap := AList fun _ : Uuid => Summary

namespace SummaryMap

/-- Every summary is stored under its own identifier. -/
def HasOwnIds (m : SummaryMap) : Prop := ∀ e ∈ m.entries, e.2.id = e.1

instance (m : SummaryMap) : Decidable m.HasOwnIds :=
  inferInstanceAs (Decidable (∀ e ∈ m.entries, e.2.id = e.1))

/-- The summaries in the order in which the map is gone through. -/
def values (m : SummaryMap) : List Summary := m.entries.map Sigma.snd

/-- The summaries as clients see them. -/
def listing (m : SummaryMap) : List Summary := m.values.mergeSort Summary.listedBefore

/-- The listing as JSON. -/
def toJson (m : SummaryMap) : Json := Catalog.shape.encode (m.listing.map Summary.toData)

/-- Whether a JSON value is the listing, its members as they are written or in order. -/
def IsHeldBy (m : SummaryMap) (state : Json) : Prop :=
  state = m.toJson ∨ state = m.toJson.canonical

/-- A list that has every summary of the map once and nothing else, in the strict order of
listings. -/
structure IsListing (m : SummaryMap) (rows : List Summary) : Prop where
  mem_iff : ∀ s, s ∈ rows ↔ m.lookup s.id = some s
  inOrder : rows.Pairwise Summary.Precedes

variable {m n : SummaryMap} {rows : List Summary} {s : Summary} {id : Uuid}

/-- The identifiers of the rows are the keys of the map. -/
theorem HasOwnIds.ids_eq (h : m.HasOwnIds) : m.values.map Summary.id = m.keys := by
  rw [values, List.map_map]
  exact List.map_congr_left h

/-- No two rows of a map have the same identifier. -/
theorem HasOwnIds.nodup_ids (h : m.HasOwnIds) : (m.values.map Summary.id).Nodup := by
  rw [h.ids_eq]
  exact m.keys_nodup

/-- A row is looked up under its own identifier and no other. -/
theorem HasOwnIds.lookup_eq_some_iff (h : m.HasOwnIds) :
    m.lookup id = some s ↔ s ∈ m.values ∧ s.id = id := by
  rw [← Option.mem_def, AList.mem_lookup_iff]
  constructor
  · intro hEntry
    exact ⟨List.mem_map.mpr ⟨_, hEntry, rfl⟩, h _ hEntry⟩
  · rintro ⟨hValue, rfl⟩
    obtain ⟨⟨key, held⟩, hEntry, rfl⟩ := List.mem_map.mp hValue
    rwa [h _ hEntry]

theorem HasOwnIds.congr (h : m.HasOwnIds) (hSame : ∀ id, n.lookup id = m.lookup id) :
    n.HasOwnIds := by
  intro e hEntry
  have hHeld : n.lookup e.1 = some e.2 := AList.mem_lookup_iff.mpr hEntry
  rw [hSame] at hHeld
  exact (h.lookup_eq_some_iff.mp hHeld).2

/-- The listing leaves no row out and adds none. -/
theorem listing_perm (m : SummaryMap) : m.listing.Perm m.values := List.mergeSort_perm _ _

theorem IsListing.nodup (h : m.IsListing rows) : rows.Nodup :=
  h.inOrder.imp fun hab hSame => (hSame ▸ hab).irrefl

theorem HasOwnIds.isListing_listing (h : m.HasOwnIds) : m.IsListing m.listing where
  mem_iff := by
    intro s
    rw [m.listing_perm.mem_iff, h.lookup_eq_some_iff, and_iff_left rfl]
  inOrder := Summary.pairwise_precedes_sort h.nodup_ids

/-- **A map has one listing.** -/
theorem HasOwnIds.isListing_iff (h : m.HasOwnIds) : m.IsListing rows ↔ rows = m.listing := by
  have hListing := h.isListing_listing
  constructor
  · intro hRows
    -- both have the same summaries, so the order leaves no choice
    refine Summary.eq_of_pairwise_precedes hRows.inOrder hListing.inOrder ?_
    refine (List.perm_ext_iff_of_nodup hRows.nodup hListing.nodup).mpr fun s => ?_
    rw [hRows.mem_iff, hListing.mem_iff]
  · rintro rfl
    exact hListing

/-- The order in which a map is gone through does not show. -/
theorem HasOwnIds.listing_congr (h : m.HasOwnIds) (hSame : ∀ id, n.lookup id = m.lookup id) :
    n.listing = m.listing := by
  have hListing := (h.congr hSame).isListing_listing
  refine h.isListing_iff.mp ⟨fun s => ?_, hListing.inOrder⟩
  rw [hListing.mem_iff, hSame]

end SummaryMap

-- ---------------------------------------------------------------------------
-- Maps and catalogs
-- ---------------------------------------------------------------------------

namespace Catalog

/-- A catalog in order with the entries of a map. -/
structure Represents (c : Catalog) (m : SummaryMap) : Prop where
  ordered : c.IsOrdered
  get?_eq : ∀ id, c.get? id = m.lookup id

variable {c d : Catalog} {m : SummaryMap}

/-- There is one catalog for a map. -/
theorem Represents.eq (hc : c.Represents m) (hd : d.Represents m) : c = d :=
  hc.ordered.eq_of_get? hd.ordered fun id => (hc.get?_eq id).trans (hd.get?_eq id).symm

/-- A map has a catalog. -/
theorem represents_ofList (hOwn : m.HasOwnIds) : (ofList m.values).Represents m where
  ordered := isOrdered_ofList _
  get?_eq := by
    intro id
    refine Option.ext fun s => ?_
    rw [(isOrdered_ofList _).get?_eq_some_iff, hOwn.lookup_eq_some_iff,
      (rows_ofList_perm hOwn.nodup_ids).mem_iff]

/-- A catalog has the rows of the map that it stands for. -/
theorem Represents.rows_perm (h : c.Represents m) (hOwn : m.HasOwnIds) :
    c.rows.Perm m.values := by
  rw [h.eq (represents_ofList hOwn)]
  exact rows_ofList_perm hOwn.nodup_ids

/-- A catalog is listed as the map that it represents. -/
theorem Represents.listing_eq (h : c.Represents m) (hOwn : m.HasOwnIds) :
    c.listing = m.listing :=
  Summary.sort_eq_of_perm h.ordered.nodup_ids (h.rows_perm hOwn)

/-- A catalog and the map that it stands for are saved alike. -/
theorem Represents.toJson_eq (h : c.Represents m) (hOwn : m.HasOwnIds) : c.toJson = m.toJson := by
  rw [toJson, h.listing_eq hOwn, SummaryMap.toJson]

end Catalog

/-- **A map is read back from the JSON of its listing.** -/
theorem SummaryMap.HasOwnIds.exists_catalog {m : SummaryMap} (hOwn : m.HasOwnIds) {state : Json}
    (hState : m.IsHeldBy state) :
    ∃ c, Catalog.ofJson state = .ok c ∧ c.Represents m := by
  have hCatalog := Catalog.represents_ofList hOwn
  refine ⟨_, ?_, hCatalog⟩
  rcases hState with rfl | rfl
  · rw [← hCatalog.toJson_eq hOwn]
    exact hCatalog.ordered.ofJson_toJson
  · rw [← hCatalog.toJson_eq hOwn]
    exact hCatalog.ordered.ofJson_canonical

-- ---------------------------------------------------------------------------
-- Restarts
-- ---------------------------------------------------------------------------

namespace Follower

/-- Two followers of one name that are at the same place and show the same. -/
structure Alike (f g : Follower) : Prop where
  name : f.runner.name = g.runner.name
  position : f.runner.position = g.runner.position
  catalog : f.model.catalog = g.model.catalog

/-- A follower that shows a map and has saved it, on storage that works. -/
structure HasSaved (m : SummaryMap) (b : Backend) (f : Follower) : Prop where
  steady : b.IsSteady
  inOrder : Log.InOrder b.events.log
  size : 1 ≤ f.runner.batchSize
  restored : f.runner.restored = true
  shown : f.model.catalog.Represents m
  saved : ∃ c, b.checkpoints.load f.runner.name = some c ∧ c.position = f.runner.position ∧
    m.IsHeldBy c.state

/-- Whether a restart leaves no trace: a tick of a new follower of the same name ends as one of the
old follower does, and as long as there is nothing new, everything is as it was before. -/
def RestartsAlike (b : Backend) (f : Follower) : Prop :=
  ∀ (now : Instant) (size : Nat), ∃ result g g' after after',
    (tick now f).run b = ((result, g), after) ∧
    (tick now ⟨.new f.runner.name size, .empty⟩).run b = ((result, g'), after') ∧
    g.Alike g' ∧ after.checkpoints = after'.checkpoints ∧
    (Log.above f.runner.position b.events.log = [] →
      result = .ok ⟨0, f.runner.position⟩ ∧ f.Alike g' ∧ after'.checkpoints = b.checkpoints)

variable {m : SummaryMap} {b : Backend} {f g : Follower} {now : Instant}

/-- Followers that are alike make the same of what they find in the log. -/
theorem Alike.ticked (h : f.Alike g) (rest : List StoredEvent) :
    (f.ticked rest).1 = (g.ticked rest).1 ∧ (f.ticked rest).2.Alike (g.ticked rest).2 := by
  rw [Follower.ticked, Follower.ticked, h.catalog, h.position]
  cases g.model.catalog.foldAll rest with
  | ok next => exact ⟨rfl, h.name, rfl, rfl⟩
  | error e => exact ⟨rfl, h⟩

/-- Followers that are alike save the same checkpoint. -/
theorem Alike.checkpointed (h : f.Alike g) (now : Instant) (rest : List StoredEvent)
    (s : CheckpointStore) : f.checkpointed now rest s = g.checkpointed now rest s := by
  rw [Follower.checkpointed, Follower.checkpointed, h.catalog, h.position]
  cases g.model.catalog.foldAll rest with
  | ok next => simp only [checkpoint, h.name]
  | error e => rfl

/-- A follower restored from the JSON of a map shows that map. -/
theorem exists_restored (f : Follower) (hOwn : m.HasOwnIds) {c : Checkpoint}
    (hState : m.IsHeldBy c.state) :
    ∃ g, f.restore (some c) = .ok g ∧ g.model.catalog.Represents m ∧
      g.runner = { f.runner with position := c.position, restored := true } := by
  obtain ⟨catalog, hRead, hCatalog⟩ := hOwn.exists_catalog hState
  exact ⟨_, f.restore_some hRead, hCatalog, rfl⟩

/-- What the saving of a map leaves behind. -/
theorem hasSaved_saving (now : Instant) (hSteady : b.IsSteady) (hOrder : Log.InOrder b.events.log)
    (hSize : 1 ≤ f.runner.batchSize) (hRestored : f.runner.restored = true) (hOwn : m.HasOwnIds)
    {catalog : Catalog} (hCatalog : catalog.Represents m) (position folded : Nat) :
    ∃ b', (step now f (.saving catalog position folded)).run b =
        (.ok (f.advanceTo catalog position, .done ⟨folded, position⟩), b') ∧
      b'.events = b.events ∧ (f.advanceTo catalog position).HasSaved m b' := by
  obtain ⟨b', hRun, hAgrees⟩ := run_saving now f hSteady catalog position folded
  refine ⟨b', hRun, hAgrees.events, hAgrees.isSteady hSteady, ?_, hSize, hRestored, hCatalog,
    f.checkpoint now catalog position, ?_, rfl, .inl (hCatalog.toJson_eq hOwn)⟩
  · rw [hAgrees.events]
    exact hOrder
  · rw [hAgrees.checkpoints, CheckpointStore.load_save]
    exact if_pos rfl

/-- A new follower begins where the one was that saved the checkpoint. -/
theorem HasSaved.begun (h : f.HasSaved m b) (hOwn : m.HasOwnIds) (size : Nat) :
    ∃ g, (⟨.new f.runner.name size, .empty⟩ : Follower).begun b = .ok g ∧ f.Alike g ∧
      1 ≤ g.runner.batchSize := by
  obtain ⟨c, hLoad, hPosition, hState⟩ := h.saved
  obtain ⟨g, hRestore, hCatalog, hRunner⟩ :=
    exists_restored ⟨.new f.runner.name size, .empty⟩ hOwn hState
  rw [← hLoad] at hRestore
  refine ⟨g, hRestore, ⟨?_, ?_, h.shown.eq hCatalog⟩, ?_⟩
  · rw [hRunner]
    rfl
  · rw [hRunner]
    exact hPosition.symm
  · rw [hRunner]
    exact Nat.le_max_right _ _

/-- **A restart leaves no trace.** -/
theorem HasSaved.restartsAlike (h : f.HasSaved m b) (hOwn : m.HasOwnIds) : f.RestartsAlike b := by
  intro now size
  obtain ⟨start, hBegun, hAlike, hSize⟩ := h.begun hOwn size
  have hOld : f.begun b = .ok f := if_pos h.restored
  obtain ⟨after, hTick, hAfter⟩ := tick_quiet now h.steady h.inOrder h.size hOld
  obtain ⟨after', hTick', hAfter'⟩ := tick_quiet now h.steady h.inOrder hSize hBegun
  rw [← hAlike.position] at hTick' hAfter'
  -- both find the same events behind the same position
  generalize Log.above f.runner.position b.events.log = rest at hTick hTick' hAfter hAfter' ⊢
  obtain ⟨hResult, hEnd⟩ := hAlike.ticked rest
  refine ⟨(f.ticked rest).1, (f.ticked rest).2, (start.ticked rest).2, after, after', hTick, ?_,
    hEnd, ?_, ?_⟩
  · rw [hTick', hResult]
  · rw [hAfter.checkpoints, hAfter'.checkpoints]
    exact hAlike.checkpointed now rest b.checkpoints
  · rintro rfl
    exact ⟨rfl, ⟨hEnd.name, hEnd.position, hEnd.catalog⟩, hAfter'.checkpoints⟩

end Follower

namespace SummaryMap

/-- **A listing survives a restart.** It has every summary of the map once, newest first, and is the
only such list, whatever order the map is gone through in; a follower that is restored from it has
the map again, and is not told from the one that has saved it. -/
theorem survives_restart (m : SummaryMap) (hOwn : m.HasOwnIds) :
    (∀ rows, m.IsListing rows ↔ rows = m.listing) ∧
    (∀ n : SummaryMap, (∀ id, n.lookup id = m.lookup id) →
      n.listing = m.listing ∧ n.toJson = m.toJson) ∧
    (∀ c : Catalog, c.Represents m → c.listing = m.listing ∧ c.toJson = m.toJson) ∧
    (∀ (f : Follower) (c : Checkpoint), m.IsHeldBy c.state → ∃ g, f.restore (some c) = .ok g ∧
      g.model.catalog.Represents m ∧ g.runner.position = c.position) ∧
    ∀ (f : Follower) (b : Backend), f.HasSaved m b → f.RestartsAlike b := by
  refine ⟨fun _ => hOwn.isListing_iff, fun n hSame => ?_, fun c hCatalog => ?_,
    fun f c hState => ?_, fun f b hSaved => hSaved.restartsAlike hOwn⟩
  · have hListing := hOwn.listing_congr hSame
    rw [toJson, toJson, hListing]
    exact ⟨rfl, rfl⟩
  · exact ⟨hCatalog.listing_eq hOwn, hCatalog.toJson_eq hOwn⟩
  · obtain ⟨g, hRestore, hCatalog, hRunner⟩ := f.exists_restored hOwn hState
    exact ⟨g, hRestore, hCatalog, congrArg Runner.position hRunner⟩

/-- A quarter of a second into the leap second at the end of 2016. -/
def leapSecond : Instant := ⟨2016, 12, 31, 86399, 1250000000, by decide, by decide⟩

/-- The last instant of the calendar. -/
def lastInstant : Instant := ⟨262142, 12, 31, 86399, 999999999, by decide, by decide⟩

/-- A template by number. -/
def row (n : Nat) (t : Instant) : Summary := ⟨.ofNat n, "Menü \"a\"\n", "", n = 2, t, lastInstant⟩

/-- Two templates of the same instant, with a newer one between them. -/
def ties : SummaryMap :=
  ⟨[⟨.ofNat 2, row 2 leapSecond⟩, ⟨.ofNat 3, row 3 lastInstant⟩, ⟨.ofNat 1, row 1 leapSecond⟩],
    by rw [List.NodupKeys]; decide⟩

/-- Storage in which three events have been appended. -/
def threeAppended : Backend :=
  let created := (TemplateEvent.created "a" "" .empty default).toNewEvent
  .ofEvents (EventStore.empty.attempts
    [⟨default, .ofNat 1, 0, [created]⟩, ⟨default, .ofNat 2, 0, [created]⟩,
      ⟨default, .ofNat 3, 0, [created]⟩])

/-- Saved by one follower and shown by the next. -/
theorem survives_restart_of_ties :
    let listed := [row 3 lastInstant, row 1 leapSecond, row 2 leapSecond]
    let f : Follower := ⟨⟨"list", 2, 0, true⟩, .empty⟩
    let c := Catalog.ofList ties.values
    ties.HasOwnIds ∧ ties.listing = listed ∧
    ∃ saved g after,
      (f.step default (.saving c 3 3)).run threeAppended =
        (.ok (f.advanceTo c 3, .done ⟨3, 3⟩), saved) ∧
      (Follower.tick default ⟨.new "list" 5, .empty⟩).run saved = ((.ok ⟨0, 3⟩, g), after) ∧
      g.model.catalog.listing = listed ∧ after.checkpoints = saved.checkpoints := by
  intro listed f c
  have hOwn : ties.HasOwnIds := by decide
  obtain ⟨hListing, -, hCatalog, -, hRestart⟩ := ties.survives_restart hOwn
  have hListed : ties.listing = listed := by
    refine ((hListing listed).mp ⟨fun s => ?_, by decide⟩).symm
    have hPerm : listed.Perm ties.values := by decide
    rw [hPerm.mem_iff, hOwn.lookup_eq_some_iff, and_iff_left rfl]
  have hOrder : Log.InOrder threeAppended.events.log :=
    Log.inOrder_of_coherent (EventStore.coherent_empty.attempts _)
  have hRows : c.Represents ties := Catalog.represents_ofList hOwn
  obtain ⟨saved, hSave, hEvents, hSaved⟩ := f.hasSaved_saving default
    (Backend.isSteady_ofEvents _) hOrder (by decide) rfl hOwn hRows 3 3
  have hNothing : Log.above 3 saved.events.log = [] := by
    rw [hEvents]
    decide +kernel
  obtain ⟨_, _, g, _, after, -, hTick, -, -, hSame⟩ := hRestart _ saved hSaved default 5
  obtain ⟨rfl, hAlike, hKept⟩ := hSame hNothing
  refine ⟨hOwn, hListed, saved, g, after, hSave, hTick, ?_, hKept⟩
  rw [← hAlike.catalog, ← hListed]
  exact (hCatalog c hRows).1

end SummaryMap

end Galley
