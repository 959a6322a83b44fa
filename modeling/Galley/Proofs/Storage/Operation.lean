import Galley.Storage.Backend

/-!
# Operations as functions of the events

Storage holds more than events: checkpoints, planned outages and a tally. As long as no outage is
planned, what an operation gives and what it does to the events depends on the events alone.
`Operation.Does` says so: it names the function of the event store that an operation carries out.
The lemmas go along the steps of an operation, so the function is read off the program.

Main results:

* `Does.bind` — one step after another.
* `does_load`, `does_append` — the two calls of the event store.
-/

namespace Galley

/-- Storage for which no outage is planned. -/
def Backend.IsSteady (b : Backend) : Prop := ∀ call, b.outages call = []

/-- Storage that holds the given events and nothing else. -/
def Backend.ofEvents (s : EventStore) : Backend := { Backend.empty with events := s }

/-- Storage that holds some events and nothing else has no outages ahead. -/
theorem Backend.isSteady_ofEvents (s : EventStore) : (Backend.ofEvents s).IsSteady := fun _ => rfl

/-- What happens to the events in one go: a result or a failure, and the events afterwards. -/
abbrev EventStore.Effect (α : Type) := EventStore → Except Failure α × EventStore

/-- One effect after another. -/
def EventStore.Effect.andThen {α β : Type} (first : EventStore.Effect α)
    (next : α → EventStore.Effect β) : EventStore.Effect β := fun s =>
  match first s with
  | (.ok x, s) => next x s
  | (.error f, s) => (.error f, s)

namespace Operation

section

variable {α β : Type}

/-- An operation has an effect on the events and leaves storage without planned outages. -/
def Does (op : Operation α) (effect : EventStore.Effect α) : Prop :=
  ∀ b : Backend, b.IsSteady →
    (op.run b).1 = (effect b.events).1 ∧ (op.run b).2.events = (effect b.events).2 ∧
      (op.run b).2.IsSteady

/-- One operation after another: if the first one fails, the second is not run. -/
theorem run_bind (op : Operation α) (next : α → Operation β) (b : Backend) :
    (op >>= next).run b =
      match op.run b with
      | (.ok x, b) => (next x).run b
      | (.error f, b) => (.error f, b) := by
  rw [run, run, ExceptT.run_bind, StateT.run_bind]
  cases (ExceptT.run op).run b with
  | mk result b => cases result <;> rfl

/-- What is given without a look at storage. -/
theorem does_pure (x : α) : Does (pure x) fun s => (.ok x, s) :=
  fun _ hb => ⟨rfl, rfl, hb⟩

/-- **One step after another.** -/
theorem Does.bind {op : Operation α} {next : α → Operation β} {effect : EventStore.Effect α}
    {nextEffect : α → EventStore.Effect β} (hOp : Does op effect)
    (hNext : ∀ x, Does (next x) (nextEffect x)) :
    Does (op >>= next) (effect.andThen nextEffect) := by
  intro b hb
  obtain ⟨hResult, hEvents, hSteady⟩ := hOp b hb
  rw [run_bind]
  rcases hRun : op.run b with ⟨result, b'⟩
  rcases hEffect : effect b.events with ⟨result', s'⟩
  rw [hRun] at hResult hEvents hSteady
  rw [hEffect] at hResult hEvents
  simp only at hResult hEvents hSteady
  rw [EventStore.Effect.andThen, hEffect, ← hResult, ← hEvents]
  cases result with
  | error f => exact ⟨rfl, rfl, hSteady⟩
  | ok x => exact hNext x b' hSteady

theorem Does.congr {op : Operation α} {effect effect' : EventStore.Effect α} (hOp : Does op effect)
    (h : ∀ s, effect s = effect' s) : Does op effect' := by
  rwa [← funext h]

/-- A failure is counted and changes no event. -/
theorem does_fail (f : Failure) : Does (fail f : Operation α) fun s => (.error f, s) :=
  fun _ hb => ⟨rfl, rfl, hb⟩

/-- A computation that needs no storage has no effect on the events. -/
theorem does_ofExcept (x : Except Failure α) : Does (ofExcept x) fun s => (x, s) := by
  cases x with
  | ok x => exact does_pure x
  | error f => exact does_fail f

/-- Without a planned outage every call is let through. -/
theorem does_reach (call : StoreCall) : Does (reach call) fun s => (.ok (), s) := by
  intro b hb
  have hGet : (get : Operation Backend).run b = (.ok b, b) := rfl
  rw [reach, run_bind, hGet]
  simp only [hb call]
  exact ⟨rfl, rfl, hb⟩

/-- What depends on the events alone. -/
theorem does_get (op : Backend → Operation α) (effect : EventStore → EventStore.Effect α)
    (h : ∀ b : Backend, Does (op b) (effect b.events)) :
    Does (get >>= op) fun s => effect s s := by
  intro b hb
  have hGet : (get : Operation Backend).run b = (.ok b, b) := rfl
  rw [run_bind, hGet]
  exact h b b hb

/-- Counting has no effect on the events. -/
theorem does_count (m : Measure) (n : Nat) : Does (count m n) fun s => (.ok (), s) :=
  fun _ hb => ⟨rfl, rfl, hb⟩

theorem does_countKinds (batch : List NewEvent) :
    Does (countKinds batch) fun s => (.ok (), s) := by
  induction batch with
  | nil => exact does_pure ()
  | cons e batch ih => exact (does_count (.appended e.kind) 1).bind fun _ => ih

/-- A refused append is counted, once more if it is a conflict. -/
theorem does_failAppend (f : Failure) :
    Does (α := Nat)
      (match f with
        | .conflict .. => (do count .conflicts 1; fail f)
        | _ => fail f)
      fun s => (.error f, s) := by
  split
  · exact (does_count .conflicts 1).bind fun _ => does_fail _
  · exact does_fail f

/-- **Loading a stream** changes no event. -/
theorem does_load (id : Uuid) : Does (load id) fun s => (s.load id, s) :=
  (does_reach .load).bind fun _ =>
    does_get (fun b => ofExcept (b.events.load id)) (fun s t => (s.load id, t))
      fun b => does_ofExcept (b.events.load id)

/-- **Appending to a stream** does what the event store does. -/
theorem does_append (now : Instant) (id : Uuid) (expected : Nat) (batch : List NewEvent) :
    Does (append now id expected batch) fun s => s.append now id expected batch := by
  refine @Does.bind _ _ _ _ _ (fun _ s => s.append now id expected batch) (does_reach .append)
    fun _ => ?_
  intro b hb
  have hGet : (get : Operation Backend).run b = (.ok b, b) := rfl
  rw [run_bind, hGet]
  rcases hAppend : b.events.append now id expected batch with ⟨result, s⟩
  have hSet : (set ({ b with events := s } : Backend) : Operation PUnit).run b =
      (.ok ⟨⟩, { b with events := s }) := rfl
  cases result with
  | ok version =>
    simp only [hAppend]
    rw [run_bind, hSet]
    exact ((does_countKinds batch).bind fun _ => does_pure version) { b with events := s } hb
  | error f =>
    simp only [hAppend]
    rw [run_bind, hSet]
    exact does_failAppend f { b with events := s } hb

end

end Operation

end Galley
