import Galley.Proofs.Log.Coherence

/-!
# Reading the log from a position on

A position parts a log in order into what has been read (`Log.upTo`) and what is left (`Log.above`).
Looking for the place by halving finds it, so a page is the beginning of what is left, and a reader
that goes on to the last event of the page has read just that page more.

Main results:

* `upTo_append_above` — a position parts a log in order.
* `EventStore.loadSince_eq` — a page is the beginning of what is left.
* `InOrder.page` — what has been read and what is left after a page.
* `InOrder.attempts` — a log that is appended to stays in order.
-/

namespace Galley.Log

/-- The sequences of a log strictly increase. -/
def InOrder (log : List StoredEvent) : Prop := log.Pairwise fun a b => a.sequence < b.sequence

/-- The events of a log at or below a position. -/
def upTo (position : Nat) (log : List StoredEvent) : List StoredEvent :=
  log.filter fun e => e.sequence ≤ position

/-- The events of a log above a position. -/
def above (position : Nat) (log : List StoredEvent) : List StoredEvent :=
  log.filter fun e => position < e.sequence

variable {log : List StoredEvent} {position : Nat}

-- ---------------------------------------------------------------------------
-- Parting a log
-- ---------------------------------------------------------------------------

/-- A log whose first part is not above a position, and whose second part is. -/
theorem parts {xs ys : List StoredEvent} (hxs : ∀ x ∈ xs, x.sequence ≤ position)
    (hys : ∀ y ∈ ys, position < y.sequence) :
    upTo position (xs ++ ys) = xs ∧ above position (xs ++ ys) = ys := by
  rw [upTo, above, List.filter_append, List.filter_append]
  constructor
  · rw [List.filter_eq_self.mpr fun x hx => decide_eq_true (hxs x hx),
      List.filter_eq_nil_iff.mpr fun y hy => by simpa using hys y hy, List.append_nil]
  · rw [List.filter_eq_nil_iff.mpr fun x hx => by simpa using hxs x hx,
      List.filter_eq_self.mpr fun y hy => decide_eq_true (hys y hy), List.nil_append]

/-- Events above a position change nothing up to it. -/
theorem upTo_append {more : List StoredEvent} (h : ∀ e ∈ more, position < e.sequence) :
    upTo position (log ++ more) = upTo position log := by
  have hNone : more.filter (fun e => e.sequence ≤ position) = [] :=
    List.filter_eq_nil_iff.mpr fun e he => by simpa using h e he
  rw [upTo, List.filter_append, hNone, List.append_nil, upTo]

/-- A position parts a log anywhere in order. -/
theorem exists_parts (h : InOrder log) (position : Nat) :
    ∃ xs ys, log = xs ++ ys ∧ (∀ x ∈ xs, x.sequence ≤ position) ∧
      ∀ y ∈ ys, position < y.sequence := by
  induction log with
  | nil => exact ⟨[], [], rfl, by simp, by simp⟩
  | cons e rest ih =>
    obtain ⟨hFirst, hRest⟩ := List.pairwise_cons.mp h
    by_cases he : e.sequence ≤ position
    · obtain ⟨xs, ys, rfl, hxs, hys⟩ := ih hRest
      refine ⟨e :: xs, ys, rfl, ?_, hys⟩
      exact List.forall_mem_cons.mpr ⟨he, hxs⟩
    · refine ⟨[], e :: rest, rfl, by simp, ?_⟩
      refine List.forall_mem_cons.mpr ⟨Nat.lt_of_not_le he, fun y hy => ?_⟩
      exact Nat.lt_trans (Nat.lt_of_not_le he) (hFirst y hy)

/-- **A position parts a log in order.** -/
theorem upTo_append_above (h : InOrder log) (position : Nat) :
    upTo position log ++ above position log = log := by
  obtain ⟨xs, ys, rfl, hxs, hys⟩ := exists_parts h position
  obtain ⟨hUpTo, hAbove⟩ := parts hxs hys
  rw [hUpTo, hAbove]

/-- **A reader that goes on to the last event of a page** has read just that page more, and the
events behind the page are left. -/
theorem InOrder.page (h : InOrder log) {page rest : List StoredEvent} {last : StoredEvent}
    (hPage : above position log = page ++ rest) (hLast : page.getLast? = some last) :
    upTo last.sequence log = upTo position log ++ page ∧ above last.sequence log = rest := by
  obtain ⟨front, rfl⟩ := List.getLast?_eq_some_iff.mp hLast
  have hParts := upTo_append_above h position
  rw [hPage, ← List.append_assoc] at hParts
  rw [← hParts] at h
  obtain ⟨hFront, -, hRest⟩ := List.pairwise_append.mp h
  rw [← List.append_assoc] at hFront
  have hRead : ∀ x ∈ upTo position log ++ front ++ [last], x.sequence ≤ last.sequence := by
    intro x hx
    rcases List.mem_append.mp hx with hx | hx
    · exact Nat.le_of_lt ((List.pairwise_append.mp hFront).2.2 x hx last List.mem_cons_self)
    · exact Nat.le_of_eq (congrArg _ (List.mem_singleton.mp hx))
  have hLeft : ∀ y ∈ rest, last.sequence < y.sequence :=
    fun y hy => hRest last (by simp) y hy
  have hSplit := parts hRead hLeft
  rwa [List.append_assoc (upTo position log), hParts] at hSplit

-- ---------------------------------------------------------------------------
-- Halving
-- ---------------------------------------------------------------------------

/-- Halving a stretch that holds the place finds it, if the log is parted there. -/
theorem halve_eq {events : Array StoredEvent} {place : Nat}
    (hPlace : ∀ i, (events[i]?.any fun e => e.sequence ≤ position) = decide (i < place)) :
    ∀ fuel base size : Nat, size ≤ fuel → base ≤ place → place ≤ base + size →
      EventStore.halve events position fuel base size = place := by
  intro fuel
  induction fuel with
  | zero =>
    intro base size hFuel hBase hSize
    rw [EventStore.halve]
    omega
  | succ fuel ih =>
    intro base size hFuel hBase hSize
    rw [EventStore.halve]
    simp only [hPlace, decide_eq_true_eq]
    by_cases hSmall : size ≤ 1
    · rw [if_pos hSmall]
      split <;> omega
    · rw [if_neg hSmall]
      split
      · exact ih _ _ (by omega) (by omega) (by omega)
      · exact ih _ _ (by omega) (by omega) (by omega)

/-- The place that halving looks for is the number of events at or below the position. -/
theorem firstAbove_eq {s : EventStore} (h : InOrder s.log) (position : Nat) :
    s.firstAbove position = (upTo position s.log).length := by
  have hParts := upTo_append_above h position
  have hLength : (upTo position s.log).length ≤ s.log.length := List.length_filter_le _ _
  refine halve_eq (fun i => ?_) _ 0 _ (Nat.le_succ _) (Nat.zero_le _) (by omega)
  rw [List.getElem?_toArray]
  by_cases hi : i < (upTo position s.log).length
  · have hMem := List.mem_filter.mp (List.getElem_mem hi)
    rw [decide_eq_true hi, ← hParts, List.getElem?_append_left hi, List.getElem?_eq_getElem hi]
    exact hMem.2
  · rw [decide_eq_false hi, ← hParts, List.getElem?_append_right (Nat.le_of_not_lt hi)]
    cases hEvent : (above position s.log)[i - (upTo position s.log).length]? with
    | none => rfl
    | some e =>
      have hMem := List.mem_filter.mp (List.mem_of_getElem? hEvent)
      exact decide_eq_false (Nat.not_le.mpr (of_decide_eq_true hMem.2))

/-- **A page is the beginning of what is left.** -/
theorem loadSince_eq {s : EventStore} (h : InOrder s.log) (position limit : Nat) :
    s.loadSince position limit = (above position s.log).take limit := by
  have hLeft : s.log.drop (upTo position s.log).length = above position s.log := by
    have hParts := upTo_append_above h position
    generalize upTo position s.log = read at hParts ⊢
    rw [← hParts, List.drop_left, hParts]
  rw [EventStore.loadSince, firstAbove_eq h, hLeft]

-- ---------------------------------------------------------------------------
-- Logs that go on
-- ---------------------------------------------------------------------------

/-- No event of a log in order is behind the last one. -/
theorem InOrder.le_lastSequence {s : EventStore} (h : InOrder s.log) {e : StoredEvent}
    (he : e ∈ s.log) : e.sequence ≤ s.lastSequence := by
  rw [EventStore.lastSequence]
  cases hLast : s.log.getLast? with
  | none =>
    rw [List.getLast?_eq_none_iff.mp hLast] at he
    cases he
  | some last =>
    obtain ⟨front, hLog⟩ := List.getLast?_eq_some_iff.mp hLast
    rw [hLog] at h he
    show e.sequence ≤ last.sequence
    rcases List.mem_append.mp he with he | he
    · exact Nat.le_of_lt ((List.pairwise_append.mp h).2.2 e he last List.mem_cons_self)
    · exact Nat.le_of_eq (congrArg _ (List.mem_singleton.mp he))

/-- If there is room behind the last sequence, all sequences fit in a word of 64 bits. -/
theorem InOrder.lt_of_hasRoom {s : EventStore} (h : InOrder s.log) {events : Nat}
    (hRoom : s.HasRoom events) {e : StoredEvent} (he : e ∈ s.log) : e.sequence < Word.values64 :=
  Nat.lt_of_le_of_lt (h.le_lastSequence he) (Nat.lt_of_le_of_lt (Nat.le_add_right _ _) hRoom)

/-- **An attempt adds to the end of a log**, and the log stays in order. -/
theorem InOrder.attempt {s : EventStore} (h : InOrder s.log) (a : EventStore.Attempt) :
    ∃ more, (s.attempt a).2.log = s.log ++ more ∧ InOrder (s.log ++ more) := by
  rcases hResult : s.attempt a with ⟨f | version, s'⟩
  · rw [EventStore.append_error hResult]
    exact ⟨[], by rw [List.append_nil], by rwa [List.append_nil]⟩
  · obtain ⟨-, -, -, rfl⟩ := EventStore.append_ok hResult
    have hSequences := EventStore.sequences_number a.id a.now a.batch a.expected s.lastSequence
    refine ⟨_, rfl, List.pairwise_append.mpr ⟨h, ?_, fun x hx y hy => ?_⟩⟩
    · rw [← List.pairwise_map (f := StoredEvent.sequence) (R := (· < ·)), hSequences]
      exact List.pairwise_lt_range'
    · have hNew := List.mem_map_of_mem (f := StoredEvent.sequence) hy
      rw [hSequences, List.mem_range'_1] at hNew
      exact Nat.lt_of_le_of_lt (h.le_lastSequence hx) (by omega)

/-- So do any attempts. -/
theorem InOrder.attempts {s : EventStore} (h : InOrder s.log) (as : List EventStore.Attempt) :
    ∃ more, (s.attempts as).log = s.log ++ more ∧ InOrder (s.log ++ more) := by
  induction as generalizing s with
  | nil => exact ⟨[], by rw [List.append_nil]; rfl, by rwa [List.append_nil]⟩
  | cons a as ih =>
    obtain ⟨first, hFirst, hOrder⟩ := h.attempt a
    rw [← hFirst] at hOrder
    obtain ⟨more, hMore, hOrder⟩ := ih hOrder
    rw [hFirst, List.append_assoc] at hMore hOrder
    exact ⟨first ++ more, hMore, hOrder⟩

/-- The log of a coherent store is in order. -/
theorem inOrder_of_coherent {s : EventStore} (h : s.Coherent) : InOrder s.log := by
  rw [InOrder, ← List.pairwise_map (f := StoredEvent.sequence) (R := (· < ·)), h.sequences]
  exact List.pairwise_lt_range'

end Galley.Log
