import Galley.Proofs.Log.Reading

/-!
# Reading the log page by page

A reader asks for a page above its position, goes on to the last event of the page, and asks again.
In between others append. What it has been given are then just the events between where it started
and where it is (`Log.Read`), each of them once and in order, and none of what others append later
ever gets in between, as it comes behind the whole log.

Main results:

* `Read.append`, `Read.page` — what the appends of others and a page further do to what has been
  read.
* `Read.eq_between` — what has been read are the events between two positions.
* `Reader.read_run` — a reader among writers has read what it was given.
* `Reader.paging` — from the empty store on, with pages of any sizes.
-/

namespace Galley

namespace Log

-- ---------------------------------------------------------------------------
-- Events between two positions
-- ---------------------------------------------------------------------------

/-- The events of a log above one position and at or below another. -/
def between (start finish : Nat) (log : List StoredEvent) : List StoredEvent :=
  log.filter fun e => start < e.sequence ∧ e.sequence ≤ finish

/-- Where a reader is after events that it has read from a position on. -/
def reached (position : Nat) (events : List StoredEvent) : Nat :=
  (events.getLast?.map StoredEvent.sequence).getD position

theorem reached_append {position : Nat} {page rest : List StoredEvent} {last : StoredEvent}
    (hLast : page.getLast? = some last) :
    reached position (page ++ rest) = reached last.sequence rest := by
  rw [reached, reached, List.getLast?_append, hLast]
  cases rest.getLast? <;> rfl

/-- A reader that started at a position has read the given events of a log, and has come to another
position: behind what it has read is what it has left. -/
structure Read (start position : Nat) (events log : List StoredEvent) : Prop where
  parts : above start log = events ++ above position log
  reached : position = reached start events

variable {start position : Nat} {events log more : List StoredEvent}

theorem read_nothing (start : Nat) (log : List StoredEvent) : Read start start [] log :=
  ⟨rfl, rfl⟩

/-- What has been read is there, above the start. -/
theorem Read.mem (h : Read start position events log) {e : StoredEvent} (he : e ∈ events) :
    e ∈ log ∧ start < e.sequence := by
  have hMem : e ∈ above start log := by
    rw [h.parts]
    exact List.mem_append_left _ he
  obtain ⟨hLog, hAbove⟩ := List.mem_filter.mp hMem
  exact ⟨hLog, of_decide_eq_true hAbove⟩

/-- A reader is where it started, or at the last event that it has read. -/
theorem Read.start_or_last (h : Read start position events log) :
    (events = [] ∧ position = start) ∨
      ∃ last, events.getLast? = some last ∧ position = last.sequence := by
  have hReached := h.reached
  rw [Log.reached] at hReached
  cases hLast : events.getLast? with
  | none =>
    rw [hLast] at hReached
    exact .inl ⟨List.getLast?_eq_none_iff.mp hLast, hReached⟩
  | some last =>
    rw [hLast] at hReached
    exact .inr ⟨last, rfl, hReached⟩

/-- **What others append changes nothing about what has been read.** -/
theorem Read.append (hOrder : InOrder (log ++ more)) (h : Read start position events log) :
    Read start position events (log ++ more) := by
  refine ⟨?_, h.reached⟩
  rw [above, above, List.filter_append, List.filter_append]
  show above start log ++ _ = events ++ (above position log ++ _)
  rw [h.parts, List.append_assoc]
  rcases h.start_or_last with ⟨-, rfl⟩ | ⟨last, hLast, hPosition⟩
  · rfl
  · -- the last event read is in the log, and all new ones are behind it
    obtain ⟨hLog, hStart⟩ := h.mem (List.mem_of_getLast? hLast)
    have hBehind : ∀ e ∈ more, position < e.sequence := by
      intro e he
      rw [hPosition]
      exact (List.pairwise_append.mp hOrder).2.2 last hLog e he
    rw [List.filter_eq_self.mpr fun e he => decide_eq_true (hBehind e he),
      List.filter_eq_self.mpr fun e he => decide_eq_true (by have := hBehind e he; omega)]

/-- A page further. -/
theorem Read.page (hOrder : InOrder log) (h : Read start position events log)
    {page rest : List StoredEvent} {last : StoredEvent}
    (hPage : above position log = page ++ rest) (hLast : page.getLast? = some last) :
    Read start last.sequence (events ++ page) log where
  parts := by rw [h.parts, hPage, (hOrder.page hPage hLast).2, List.append_assoc]
  reached := by
    rw [Log.reached, List.getLast?_append, hLast]
    rfl

/-- **What has been read are the events between the start and the position.** -/
theorem Read.eq_between (hOrder : InOrder log) (h : Read start position events log) :
    events = between start position log := by
  have hBetween : between start position log =
      (above start log).filter fun e => e.sequence ≤ position := by
    rw [between, above, List.filter_filter]
    exact List.filter_congr fun e _ => by rw [Bool.decide_and, Bool.and_comm]
  have hReached : ∀ e ∈ events, e.sequence ≤ position := by
    intro e he
    rcases h.start_or_last with ⟨rfl, -⟩ | ⟨last, hLast, rfl⟩
    · cases he
    · obtain ⟨front, rfl⟩ := List.getLast?_eq_some_iff.mp hLast
      have hAbove : InOrder (front ++ [last] ++ above last.sequence log) := by
        rw [← h.parts]
        exact hOrder.filter _
      rcases List.mem_append.mp he with he | he
      · exact Nat.le_of_lt ((List.pairwise_append.mp (List.pairwise_append.mp hAbove).1).2.2 e he
          last List.mem_cons_self)
      · exact Nat.le_of_eq (congrArg _ (List.mem_singleton.mp he))
  rw [hBetween, h.parts]
  exact (Log.parts hReached fun e he => of_decide_eq_true (List.mem_filter.mp he).2).1.symm

theorem reached_reached (events more : List StoredEvent) :
    reached start (events ++ more) = reached (reached start events) more := by
  rw [reached, reached, reached, List.getLast?_append]
  cases more.getLast? <;> rfl

/-- A reader that goes on from where another one has come to. -/
theorem Read.trans {finish : Nat} {later : List StoredEvent}
    (h : Read start position events log) (h' : Read position finish later log) :
    Read start finish (events ++ later) log where
  parts := by rw [h.parts, h'.parts, List.append_assoc]
  reached := by rw [reached_reached, ← h.reached, h'.reached]

/-- What comes of one page, which may be empty. -/
theorem read_page {s : EventStore} (hOrder : InOrder s.log) (position limit : Nat) :
    Read position (Log.reached position (s.loadSince position limit))
      (s.loadSince position limit) s.log := by
  have hPage : above position s.log =
      s.loadSince position limit ++ (above position s.log).drop limit := by
    rw [loadSince_eq hOrder, List.take_append_drop]
  cases hLast : (s.loadSince position limit).getLast? with
  | none =>
    rw [List.getLast?_eq_none_iff.mp hLast]
    exact read_nothing position s.log
  | some last =>
    have hRead := (read_nothing position s.log).page hOrder hPage hLast
    rwa [List.nil_append, show last.sequence = Log.reached position (s.loadSince position limit) by
      rw [Log.reached, hLast]; rfl] at hRead

/-- A reader that started at zero has read the log up to its position. -/
theorem between_zero {s : EventStore} (h : s.Coherent) (position : Nat) :
    between 0 position s.log = upTo position s.log := by
  refine List.filter_congr fun e he => ?_
  have hMem : e.sequence ∈ s.log.map StoredEvent.sequence := List.mem_map_of_mem he
  rw [h.sequences, List.mem_range'_1] at hMem
  have hPositive : 0 < e.sequence := by omega
  simp [hPositive]

end Log

-- ---------------------------------------------------------------------------
-- A reader among writers
-- ---------------------------------------------------------------------------

/-- A reader of a store that others append to: the position that the next page starts from, and the
pages so far. -/
structure Reader where
  store : EventStore
  position : Nat
  pages : List (List StoredEvent)

namespace Reader

/-- What happens next: somebody appends, or the reader asks for a page of at most so many events. -/
inductive Turn where
  | append (a : EventStore.Attempt)
  | page (limit : Nat)

/-- A reader that starts at a position. -/
def startingAt (position : Nat) (s : EventStore) : Reader := ⟨s, position, []⟩

/-- One turn. After a page the reader goes on to its last event, if it has one. -/
def step (r : Reader) : Turn → Reader
  | .append a => { r with store := (r.store.attempt a).2 }
  | .page limit =>
    let page := r.store.loadSince r.position limit
    { r with position := Log.reached r.position page, pages := r.pages ++ [page] }

/-- Any turns. -/
def run (r : Reader) (turns : List Turn) : Reader := turns.foldl step r

/-- All that the reader has been given. -/
def given (r : Reader) : List StoredEvent := r.pages.flatten

/-- What is so of a reader at any time: the two sides of the store agree, and it has read what it
was given. -/
structure HasRead (start : Nat) (r : Reader) : Prop where
  coherent : r.store.Coherent
  read : Log.Read start r.position r.given r.store.log

variable {start : Nat} {r : Reader}

theorem HasRead.inOrder (h : r.HasRead start) : Log.InOrder r.store.log :=
  Log.inOrder_of_coherent h.coherent

/-- One turn keeps it so. -/
theorem HasRead.step (h : r.HasRead start) (turn : Turn) : (r.step turn).HasRead start := by
  cases turn with
  | append a =>
    obtain ⟨more, hMore, hOrder⟩ := h.inOrder.attempt a
    refine ⟨h.coherent.attempt a, ?_⟩
    show Log.Read start r.position r.given (r.store.attempt a).2.log
    rw [hMore]
    exact h.read.append hOrder
  | page limit =>
    have hGiven : (r.step (.page limit)).given = r.given ++ r.store.loadSince r.position limit := by
      simp [Reader.step, given]
    refine ⟨h.coherent, ?_⟩
    rw [hGiven]
    exact h.read.trans (Log.read_page h.inOrder r.position limit)

/-- **A reader among writers has read what it was given**, whoever has taken turns. -/
theorem HasRead.run (h : r.HasRead start) (turns : List Turn) : (r.run turns).HasRead start := by
  induction turns generalizing r with
  | nil => exact h
  | cons turn turns ih => exact ih (h.step turn)

/-- **Turns only ever add**, to the log and to the pages. -/
theorem exists_added (h : Log.InOrder r.store.log) (turns : List Turn) :
    ∃ events pages, (r.run turns).store.log = r.store.log ++ events ∧
      (r.run turns).pages = r.pages ++ pages ∧ Log.InOrder (r.store.log ++ events) := by
  induction turns generalizing r with
  | nil =>
    refine ⟨[], [], ?_, ?_, ?_⟩
    · rw [List.append_nil]; rfl
    · rw [List.append_nil]; rfl
    · rwa [List.append_nil]
  | cons turn turns ih =>
    cases turn with
    | append a =>
      obtain ⟨first, hFirst, hOrder⟩ := h.attempt a
      have hNext : Log.InOrder (r.step (.append a)).store.log := by
        show Log.InOrder (r.store.attempt a).2.log
        rwa [hFirst]
      obtain ⟨events, pages, hLog, hPages, hAll⟩ := ih hNext
      rw [show (r.step (.append a)).store.log = r.store.log ++ first from hFirst,
        List.append_assoc] at hLog hAll
      exact ⟨first ++ events, pages, hLog, hPages, hAll⟩
    | page limit =>
      obtain ⟨events, pages, hLog, hPages, hAll⟩ := ih (r := r.step (.page limit)) h
      rw [show (r.step (.page limit)).pages = r.pages ++ [r.store.loadSince r.position limit] from
        rfl, List.append_assoc] at hPages
      exact ⟨events, _, hLog, hPages, hAll⟩

/-- What later turns add to the log comes behind what has been read, and the events between the two
positions stay what they are. -/
theorem HasRead.later (h : r.HasRead start) (turns : List Turn) :
    ∃ events pages, (r.run turns).store.log = r.store.log ++ events ∧
      (r.run turns).pages = r.pages ++ pages ∧
      (∀ old ∈ r.given, ∀ new ∈ events, old.sequence < new.sequence) ∧
      Log.between start r.position (r.run turns).store.log = r.given := by
  obtain ⟨events, pages, hLog, hPages, hOrder⟩ := exists_added h.inOrder turns
  refine ⟨events, pages, hLog, hPages, fun old hOld new hNew => ?_, ?_⟩
  · exact (List.pairwise_append.mp hOrder).2.2 old (h.read.mem hOld).1 new hNew
  · rw [hLog]
    exact ((h.read.append hOrder).eq_between hOrder).symm

/-- **Reading on.** The next page has an event unless there is none left, and a page that is not
full is all that is left. -/
theorem HasRead.next (h : r.HasRead start) (limit : Nat) :
    let page := r.store.loadSince r.position limit
    (0 < limit → (page = [] ↔ Log.above r.position r.store.log = [])) ∧
      (page.length < limit → r.given ++ page = Log.above start r.store.log) := by
  intro page
  have hPage : page = (Log.above r.position r.store.log).take limit :=
    Log.loadSince_eq h.inOrder r.position limit
  constructor
  · intro hSome
    rw [hPage, List.take_eq_nil_iff]
    have hLimit : limit ≠ 0 := by omega
    exact or_iff_right hLimit
  · intro hShort
    rw [hPage, List.length_take] at hShort
    have hAll : page = Log.above r.position r.store.log := by
      rw [hPage, List.take_of_length_le (by omega)]
    rw [hAll, h.read.parts]

/-- **Reading page by page.** On a store that is only appended to, a page is the beginning of what
is above its position, whatever the position and the limit. And whenever others append between the
pages of a reader, and whatever the sizes of the pages,

* the reader has been given every event between where it started and where it is, each once and in
  order; started at zero, these are all events up to its position;
* later turns change nothing of it: what they add to the log has higher sequences than all that was
  given, so nothing gets in at or below the position;
* the next page has an event unless there is none left, and after a page that is not full nothing
  is left. -/
theorem paging (as : List EventStore.Attempt) (start : Nat) (turns : List Turn) :
    let s := EventStore.empty.attempts as
    let r := (startingAt start s).run turns
    (∀ position limit, s.loadSince position limit = (Log.above position s.log).take limit) ∧
    r.given = Log.between start r.position r.store.log ∧ Log.InOrder r.store.log ∧
    (start = 0 → r.given = Log.upTo r.position r.store.log) ∧
    (∀ more, ∃ events pages, (r.run more).store.log = r.store.log ++ events ∧
      (r.run more).pages = r.pages ++ pages ∧
      (∀ old ∈ r.given, ∀ new ∈ events, old.sequence < new.sequence) ∧
      Log.between start r.position (r.run more).store.log = r.given) ∧
    ∀ limit, let page := r.store.loadSince r.position limit
      (0 < limit → (page = [] ↔ Log.above r.position r.store.log = [])) ∧
        (page.length < limit → r.given ++ page = Log.above start r.store.log) := by
  intro s r
  have hCoherent : s.Coherent := EventStore.coherent_empty.attempts as
  have hStart : (startingAt start s).HasRead start := ⟨hCoherent, Log.read_nothing start s.log⟩
  have hRead : r.HasRead start := hStart.run turns
  have hGiven : r.given = Log.between start r.position r.store.log :=
    hRead.read.eq_between hRead.inOrder
  refine ⟨fun position limit => ?_, hGiven, hRead.inOrder, ?_, hRead.later, hRead.next⟩
  · exact Log.loadSince_eq (Log.inOrder_of_coherent hCoherent) position limit
  · intro hZero
    rw [hGiven, hZero, Log.between_zero hRead.coherent]

/-- Pages of two, with another writer in between, who makes the second page a full one. -/
theorem paging_of_two :
    let e : NewEvent := ⟨"template", "p", .null, default⟩
    let s := EventStore.empty.attempts [⟨default, .ofNat 1, 0, [e, e, e]⟩]
    let r := (startingAt 0 s).run [.page 2, .append ⟨default, .ofNat 2, 0, [e, e]⟩, .page 2]
    r.given.map StoredEvent.sequence = [1, 2, 3, 4] ∧
      r.given = Log.upTo r.position r.store.log := by
  intro e s r
  have hPaging := paging [⟨default, .ofNat 1, 0, [e, e, e]⟩] 0
    [.page 2, .append ⟨default, .ofNat 2, 0, [e, e]⟩, .page 2]
  exact ⟨by decide +kernel, hPaging.2.2.2.1 rfl⟩

end Reader

end Galley
