import Galley.Proofs.Api.Served

/-!
# Broken histories look alike

A stored history can be broken in many ways, and whoever finds out knows what broke it: a kind that
nobody knows, the line of a patch that does not fit, the sequence of a stray record. The operator is
told. A client is told the code and nothing else: every failure with such a code that comes out of
stored events is reported in one and the same way.

That is a fact about where failures arise. Two of them could carry such a code and say more, an
outage of a store and an input that is not the JSON it should be; the store of events, replay and
commands give neither of them. So `FailsInside` is carried along the steps of every operation, from
the store through decoding, patches and replay to the calls of the service.

Main results:

* `Failure.told_of_inside` — what a client is told about a failure that arises inside.
* `Aggregate.failsInside_replay`, `Call.failsInside_effect` — replay and calls fail inside.
* `integrity_failures_look_alike` — two clients with two stores are told the same.
-/

namespace Galley

-- ---------------------------------------------------------------------------
-- Failures
-- ---------------------------------------------------------------------------

/-- The body that tells a client that recorded history cannot be trusted. -/
def ErrorResponse.untrusted (now : Instant) (c : Code) : ErrorResponse :=
  ⟨false, ⟨c, c.number, "Template history could not be reconstructed", none, now⟩⟩

/-- Whether a failure arises inside: it is no outage of a store, and no text that was handed in. -/
def Failure.IsInside : Failure → Prop
  | outage .. => False
  | unreadable .. => False
  | _ => True

/-- What arises inside and means that recorded history cannot be trusted has one kind of report. -/
theorem Failure.report_of_inside {f : Failure} (h : f.IsInside)
    (hIntegrity : f.code.isIntegrity = true) :
    ∃ reason, f.report = .untrustedHistory f.code reason := by
  cases f with
  | outage | unreadable => exact h.elim
  | foreignEvent | wrongVersion | foreignType | unknownKind | unreadablePayload | createdTwice
  | notCreated | patch | patchedContent | neverCreated | unreadableCheckpoint => exact ⟨_, rfl⟩
  | blankName | blankSource | emptyBatch | notFound | conflict | renderUnavailable | renderBroken
  | renderFailed => cases hIntegrity

/-- **What a client is told about it** follows from the code. -/
theorem Failure.told_of_inside {f : Failure} (h : f.IsInside)
    (hIntegrity : f.code.isIntegrity = true) (now : Instant) :
    ErrorResponse.ofReport now f.report = .untrusted now f.code := by
  obtain ⟨reason, hReport⟩ := Failure.report_of_inside h hIntegrity
  rw [hReport]
  rfl

-- ---------------------------------------------------------------------------
-- Steps
-- ---------------------------------------------------------------------------

section

variable {α β : Type}

/-- A step fails with nothing but what arises inside. -/
def FailsInside (x : Except Failure α) : Prop := ∀ f, x = .error f → f.IsInside

theorem failsInside_ok (a : α) : FailsInside (.ok a : Except Failure α) := fun _ h => nomatch h

theorem failsInside_error {f : Failure} (h : f.IsInside) :
    FailsInside (.error f : Except Failure α) := by
  rintro _ ⟨⟩
  exact h

/-- Computations that fail inside may follow one another. -/
theorem FailsInside.bind {x : Except Failure α} {next : α → Except Failure β}
    (hx : FailsInside x) (hNext : ∀ a, x = .ok a → FailsInside (next a)) :
    FailsInside (x >>= next) := by
  cases x with
  | error f => exact failsInside_error (hx f rfl)
  | ok a => exact hNext a rfl

theorem FailsInside.map {x : Except Failure α} (hx : FailsInside x) (g : α → β) :
    FailsInside (x.map g) := by
  cases x with
  | error f => exact failsInside_error (hx f rfl)
  | ok a => exact failsInside_ok (g a)

end

-- ---------------------------------------------------------------------------
-- The store of events
-- ---------------------------------------------------------------------------

/-- A stream that cannot be loaded fails inside. -/
theorem EventStore.failsInside_load (s : EventStore) (id : Uuid) : FailsInside (s.load id) := by
  rw [load.eq_def]
  split
  · exact failsInside_ok _
  · exact failsInside_error trivial

/-- So does an append that is refused. -/
theorem EventStore.failsInside_append (s : EventStore) (now : Instant) (id : Uuid) (expected : Nat)
    (batch : List NewEvent) : FailsInside (s.append now id expected batch).1 := by
  rw [append.eq_def]
  split
  · exact failsInside_error trivial
  split
  · split
    · exact failsInside_error trivial
    · exact failsInside_ok _
  · split
    · exact failsInside_error trivial
    · exact failsInside_ok _

-- ---------------------------------------------------------------------------
-- Replay
-- ---------------------------------------------------------------------------

theorem TemplateEvent.failsInside_decodeAs (kind : String) (shape : Json.Shape) (payload : Json) :
    FailsInside (decodeAs kind shape payload) := by
  rw [decodeAs]
  split
  · exact failsInside_ok _
  · exact failsInside_error trivial

theorem TemplateEvent.failsInside_decode (kind : String) (payload : Json) :
    FailsInside (decode kind payload) := by
  rw [decode]
  split
  · exact (failsInside_decodeAs _ _ _).map _
  split
  · exact (failsInside_decodeAs _ _ _).map _
  split
  · exact (failsInside_decodeAs _ _ _).map _
  · exact failsInside_error trivial

/-- An event that cannot be decoded fails inside. -/
theorem StoredEvent.failsInside_decode (e : StoredEvent) : FailsInside e.decode := by
  rw [decode]
  split
  · exact failsInside_error trivial
  · exact TemplateEvent.failsInside_decode e.kind e.payload

namespace Aggregate

/-- A patch fails with what is wrong with it, or with what is wrong with the text it leads to. -/
theorem failsInside_patchContent (content : Content) (patch : String) :
    FailsInside (patchContent content patch) := by
  rw [patchContent]
  split
  · exact failsInside_error trivial
  · split
    · exact failsInside_error trivial
    · exact failsInside_ok _

/-- An event that does not fit the state fails inside. -/
theorem failsInside_applyState (id : Uuid) (version : Nat) (state : Option TemplateState)
    (e : TemplateEvent) : FailsInside (applyState id version state e) := by
  cases state with
  | none =>
    cases e with
    | created => exact failsInside_ok _
    | updated => exact failsInside_error trivial
    | archived => exact failsInside_error trivial
  | some s =>
    cases e with
    | created => exact failsInside_error trivial
    | updated => exact (failsInside_patchContent _ _).map _
    | archived => exact failsInside_ok _

theorem failsInside_apply (a : Aggregate) (e : TemplateEvent) : FailsInside (a.apply e) :=
  (failsInside_applyState a.id a.version a.state e).map _

theorem failsInside_applyStored (a : Aggregate) (stored : StoredEvent) :
    FailsInside (a.applyStored stored) := by
  rw [applyStored]
  split
  · exact failsInside_error trivial
  split
  · exact failsInside_error trivial
  · exact stored.failsInside_decode.bind fun e _ => a.failsInside_apply e

/-- Record by record, whatever the records are. -/
theorem failsInside_applyAll (history : List StoredEvent) :
    ∀ a : Aggregate, FailsInside (a.applyAll history) := by
  induction history with
  | nil => exact failsInside_ok
  | cons stored rest ih =>
    intro a
    exact (a.failsInside_applyStored stored).bind fun next _ => ih next

/-- **Replay fails inside**, on any history. -/
theorem failsInside_replay (id : Uuid) (history : List StoredEvent) :
    FailsInside (replay id history) :=
  failsInside_applyAll history (empty id)

/-- A replay fails inside, wherever it ends. -/
theorem failsInside_replayUntil (id : Uuid) (history : List StoredEvent) (version : Nat) :
    FailsInside (replayUntil id history version) :=
  failsInside_replay id _

theorem failsInside_snapshot (a : Aggregate) : FailsInside a.snapshot := by
  rw [snapshot]
  split
  · exact failsInside_ok _
  · exact failsInside_error trivial

-- ---------------------------------------------------------------------------
-- Commands
-- ---------------------------------------------------------------------------

theorem failsInside_record (a : Aggregate) (e : TemplateEvent) : FailsInside (a.record e) :=
  (a.failsInside_apply e).map _

theorem failsInside_create (now : Instant) (id : Uuid) (name description : String)
    (content : Content) : FailsInside (create now id name description content) := by
  rw [create]
  split
  · exact failsInside_error trivial
  · exact failsInside_record _ _

theorem failsInside_update (a : Aggregate) (now : Instant) (name description : String)
    (content : Content) : FailsInside (a.update now name description content) := by
  rw [update]
  split
  · exact failsInside_error trivial
  · split
    · exact failsInside_error trivial
    · exact failsInside_record _ _

theorem failsInside_archive (a : Aggregate) (now : Instant) : FailsInside (a.archive now) := by
  rw [archive]
  split
  · exact failsInside_error trivial
  · split
    · exact failsInside_ok _
    · exact failsInside_record _ _

end Aggregate

-- ---------------------------------------------------------------------------
-- Calls
-- ---------------------------------------------------------------------------

namespace Service

theorem Call.failsInside_base {loaded : Except Failure (List StoredEvent)}
    (hLoaded : FailsInside loaded) (c : Call) : FailsInside (c.base loaded) := by
  cases c with
  | create => exact failsInside_ok _
  | get | update | archive =>
    exact hLoaded.bind fun history _ => Aggregate.failsInside_replay _ history

/-- A call that is not planned fails inside. -/
theorem Call.failsInside_planFrom (now : Instant) (a : Aggregate) (c : Call) :
    FailsInside (c.planFrom now a) := by
  cases c with
  | create => exact (Aggregate.failsInside_create _ _ _ _ _).map _
  | get => exact failsInside_ok _
  | update => exact (a.failsInside_update _ _ _ _).map _
  | archive => exact (a.failsInside_archive _).map _

/-- What is planned fails inside, if it fails. -/
theorem Pending.failsInside_effect (now : Instant) (p : Pending) (s : EventStore) :
    FailsInside (p.effect now s).1 := by
  have hAppend := s.failsInside_append now p.aggregate.id p.expected p.aggregate.newEvents
  rw [effect]
  split
  · exact p.aggregate.failsInside_snapshot
  · rcases hResult : s.append now p.aggregate.id p.expected p.aggregate.newEvents with ⟨f | _, _⟩
    · rw [hResult] at hAppend
      exact failsInside_error (hAppend f rfl)
    · exact p.aggregate.failsInside_snapshot

/-- **A call fails inside**, on any events. -/
theorem Call.failsInside_effect (clock : Clock) (c : Call) (s : EventStore) :
    FailsInside (c.effect clock s).1 := by
  have hPlan : FailsInside (c.plan clock.happened (s.load c.id)) :=
    (c.failsInside_base (s.failsInside_load c.id)).bind fun a _ =>
      c.failsInside_planFrom clock.happened a
  rw [effect]
  split
  · next f hFailed => exact failsInside_error (hPlan f hFailed)
  · next p _ => exact p.failsInside_effect clock.recorded s

/-- What a client can ask about a template: a call, a look at its history, or the template as it was
at a version. -/
inductive Inquiry where
  | call (clock : Clock) (c : Call)
  | history (id : Uuid)
  | atVersion (id : Uuid) (version : Nat)

/-- An inquiry fails on storage. -/
def Inquiry.FailsWith (b : Backend) (f : Failure) : Inquiry → Prop
  | call clock c => ((c.perform clock).run b).1 = .error f
  | history id => ((Service.history id).run b).1 = .error f
  | atVersion id version => ((Service.atVersion id version).run b).1 = .error f

/-- An operation on steady storage fails like what it does to the events. -/
theorem isInside_of_does {α : Type} {b : Backend} (hb : b.IsSteady) {op : Operation α}
    {effect : EventStore.Effect α} (hDoes : op.Does effect)
    (hEffect : FailsInside (effect b.events).1) {f : Failure} (h : (op.run b).1 = .error f) :
    f.IsInside :=
  hEffect f ((hDoes b hb).1.symm.trans h)

/-- **An inquiry fails inside**, on any events. -/
theorem Inquiry.FailsWith.isInside {b : Backend} (hb : b.IsSteady) {q : Inquiry} {f : Failure}
    (h : q.FailsWith b f) : f.IsInside := by
  have hLoaded := b.events.failsInside_load
  cases q with
  | call clock c => exact isInside_of_does hb (c.does_perform clock) (c.failsInside_effect _ _) h
  | history id => exact isInside_of_does hb (does_history id) ((hLoaded id).map _) h
  | atVersion id version =>
    refine isInside_of_does hb (does_atVersion id version) (FailsInside.bind ?_ ?_) h
    · exact (hLoaded id).bind fun history _ => Aggregate.failsInside_replayUntil id history version
    · exact fun a _ => a.failsInside_snapshot

end Service

-- ---------------------------------------------------------------------------
-- What clients are told
-- ---------------------------------------------------------------------------

open Service (Inquiry)
open Server (bareSurroundings tornEvents)

/-- The body of a response, except that a `HEAD` request is answered without it. -/
def Request.bodyShown (r : Request) (body : Json) : Payload :=
  if r.method = "HEAD" then .empty else .json body

/-- The response to a request whose call fails. -/
theorem Server.serve_failed {b : Backend} (hb : b.IsSteady) (server : Server) {env : Surroundings}
    {r : Request} {c : Service.Call} (hCall : r.call? env = some c) {f : Failure}
    (hFails : Inquiry.FailsWith b f (.call ⟨env.now, env.now⟩ c)) :
    ((server.serve env r).run b).1.status = f.code.status ∧
      ((server.serve env r).run b).1.payload =
        r.bodyShown (ErrorResponse.ofReport env.now f.report).toJson := by
  have hResult := (c.does_perform ⟨env.now, env.now⟩ b hb).1.symm.trans hFails
  have hAnswer : (c.answer env b.events).1 = Handler.failureResponse env.now f := by
    show c.response env.now (c.effect ⟨env.now, env.now⟩ b.events).1 = _
    rw [hResult]
    rfl
  have hResponse : ((server.serve env r).run b).1 =
      server.dressed env r (Handler.failureResponse env.now f) := by
    rw [← hAnswer]
    exact (served_call server (Request.comesTo hCall) b hb).1
  rw [hResponse, dressed_status, Request.bodyShown]
  refine ⟨rfl, ?_⟩
  split
  · next hHead =>
    rw [dressed, withOrigin_payload, if_pos hHead]
    rfl
  · next hHead =>
    rw [dressed_payload server env r hHead]
    rfl

/-- **Broken histories look alike.** Take two storages with any events whatever, and an inquiry of a
template on each that fails, both with one code which says that recorded history cannot be trusted.
At one time both clients are told the same: the code, its number and a message that follow from the
code alone, without details. Over the wire too, the bodies differ at most in the time. -/
theorem integrity_failures_look_alike {b b' : Backend} (hSteady : b.IsSteady)
    (hSteady' : b'.IsSteady) {f f' : Failure} (hCode : f'.code = f.code)
    (hIntegrity : f.code.isIntegrity = true) :
    (∀ q q' : Inquiry, q.FailsWith b f → q'.FailsWith b' f' → ∀ now,
      ErrorResponse.ofReport now f.report = .untrusted now f.code ∧
        ErrorResponse.ofReport now f'.report = ErrorResponse.ofReport now f.report) ∧
    ∀ (server server' : Server) (env env' : Surroundings) (r r' : Request) (c c' : Service.Call),
      r.call? env = some c → r'.call? env' = some c' →
      Inquiry.FailsWith b f (.call ⟨env.now, env.now⟩ c) →
      Inquiry.FailsWith b' f' (.call ⟨env'.now, env'.now⟩ c') →
      let response := ((server.serve env r).run b).1
      let response' := ((server'.serve env' r').run b').1
      response'.status = response.status ∧
        response.payload = r.bodyShown (ErrorResponse.untrusted env.now f.code).toJson ∧
        response'.payload = r'.bodyShown (ErrorResponse.untrusted env'.now f.code).toJson := by
  have hTold : ∀ q, Inquiry.FailsWith b f q → ∀ now,
      ErrorResponse.ofReport now f.report = .untrusted now f.code := fun q hFails =>
    Failure.told_of_inside (hFails.isInside hSteady) hIntegrity
  have hTold' : ∀ q, Inquiry.FailsWith b' f' q → ∀ now,
      ErrorResponse.ofReport now f'.report = .untrusted now f.code := by
    intro q hFails now
    rw [← hCode] at hIntegrity ⊢
    exact Failure.told_of_inside (hFails.isInside hSteady') hIntegrity now
  -- both sides are the same function of the code, so no store needs to be compared with the other
  constructor
  · intro q q' hFails hFails' now
    exact ⟨hTold q hFails now, by rw [hTold' q' hFails', hTold q hFails]⟩
  · intro server server' env env' r r' c c' hCall hCall' hFails hFails'
    obtain ⟨hStatus, hBody⟩ := Server.serve_failed hSteady server hCall hFails
    obtain ⟨hStatus', hBody'⟩ := Server.serve_failed hSteady' server' hCall' hFails'
    rw [hTold _ hFails] at hBody
    rw [hTold' _ hFails'] at hBody'
    rw [hCode] at hStatus'
    exact ⟨hStatus'.trans hStatus.symm, hBody, hBody'⟩

/-- Events of which one stream holds a record of another kind of aggregate. -/
def strayEvents : EventStore :=
  EventStore.empty.place ⟨"invoice", default, 1, 9, "InvoicePaid", .string "secret", default⟩

/-- A request for the template without a number. -/
def nilRequest : Request :=
  ⟨"GET", "/api/templates/00000000-0000-0000-0000-000000000000", [], ""⟩

theorem call?_nilRequest (env : Surroundings) : nilRequest.call? env = some (.get default) := by
  have hRoute : Route.ofPath? nilRequest.path =
      some (.template "00000000-0000-0000-0000-000000000000") := by decide +kernel
  have hId : (readPathId "00000000-0000-0000-0000-000000000000").toOption = some default := by
    decide +kernel
  rw [Request.call?, hRoute]
  simp only [hId]
  rfl

/-- A record of a wrong version here and a record of another type there: who asks for the template
is told the same. -/
theorem integrity_failures_look_alike_of_stray :
    let env := bareSurroundings default
    ErrorResponse.ofReport env.now (Failure.foreignType 1 default "invoice").report =
        ErrorResponse.ofReport env.now (Failure.wrongVersion default 1 7).report ∧
      ((Server.serve ⟨[]⟩ env nilRequest).run (.ofEvents strayEvents)).1.payload =
        ((Server.serve ⟨[]⟩ env nilRequest).run (.ofEvents tornEvents)).1.payload := by
  intro env
  have hStray : Inquiry.FailsWith (.ofEvents strayEvents) (.foreignType 1 default "invoice")
      (.call ⟨env.now, env.now⟩ (.get default)) := rfl
  have hTorn : Inquiry.FailsWith (.ofEvents tornEvents) (.wrongVersion default 1 7)
      (.call ⟨env.now, env.now⟩ (.get default)) := rfl
  have hCode : (Failure.foreignType 1 default "invoice").code =
      (Failure.wrongVersion default 1 7).code := rfl
  have hCall := call?_nilRequest env
  obtain ⟨hTold, hServed⟩ := integrity_failures_look_alike (Backend.isSteady_ofEvents tornEvents)
    (Backend.isSteady_ofEvents strayEvents) hCode rfl
  obtain ⟨-, hBody, hBody'⟩ := hServed ⟨[]⟩ ⟨[]⟩ env env nilRequest nilRequest (.get default)
    (.get default) hCall hCall hTorn hStray
  exact ⟨(hTold _ _ hTorn hStray env.now).2, hBody'.trans hBody.symm⟩

end Galley
