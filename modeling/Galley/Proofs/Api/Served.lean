import Galley.Api.Server
import Galley.Proofs.Service.Past

/-!
# What requests do to the events

A request that is not refused outright comes down to a call of the service, or to something that
reads and renders. So what it does to the events is what its call does, and what the response holds
is what the call gave. The parts around the handlers, which count requests and add headers, change
neither.

Nothing can fail once an event has been appended: a call that appends gives its template, and every
template makes a response. So a response that reports a failure stands for events left alone.

Main results:

* `served_call`, `served_quiet` — a request that comes down to a call, and one that does not.
* `serve_writes` — which requests change the events, and how.
-/

namespace Galley

open Service (Call Clock)

-- ---------------------------------------------------------------------------
-- Requests and calls
-- ---------------------------------------------------------------------------

/-- The call that the body of a request to create asks for. -/
def CreateRequest.toCall (fresh : Uuid) (body : CreateRequest) : Call :=
  .create fresh body.name body.description body.content

/-- The call that the body of a request to change asks for. -/
def UpdateRequest.toCall (id : Uuid) (body : UpdateRequest) : Call :=
  .update id body.name body.description body.content body.expected

/-- The call of the service that a request comes down to, if it comes down to one. -/
def Request.call? (env : Surroundings) (r : Request) : Option Call :=
  match Route.ofPath? r.path with
  | some .templates =>
    if r.method = "POST" then
      (r.readBody CreateRequest.shape).toOption.map fun data =>
        (CreateRequest.ofData data).toCall env.fresh.template
    else none
  | some (.template text) =>
    (readPathId text).toOption.bind fun id =>
      if r.method = "PUT" then
        (r.readBody UpdateRequest.shape).toOption.map fun data =>
          (UpdateRequest.ofData data).toCall id
      else if r.method = "DELETE" then some (.archive id)
      else if r.method = "GET" ∨ r.method = "HEAD" then some (.get id)
      else none
  | _ => none

/-- Whether a route takes requests of a method as calls of the service. -/
def Route.IsForCall (method : String) : Route → Prop
  | .templates => method = "POST"
  | .template _ => method ≠ "OPTIONS"
  | _ => False

/-- Whether a request is meant as a call of the service. -/
def Request.IsForCall (r : Request) : Prop :=
  ∃ route, Route.ofPath? r.path = some route ∧ route.IsForCall r.method

/-- The ways in which a request comes down to a call. -/
inductive Request.ComesTo (env : Surroundings) (r : Request) : Call → Prop
  | create {data : CreateRequest.shape.Value}
      (hRoute : Route.ofPath? r.path = some .templates) (hMethod : r.method = "POST")
      (hBody : r.readBody CreateRequest.shape = .ok data) :
      ComesTo env r ((CreateRequest.ofData data).toCall env.fresh.template)
  | update {text : String} {id : Uuid} {data : UpdateRequest.shape.Value}
      (hRoute : Route.ofPath? r.path = some (.template text)) (hId : readPathId text = .ok id)
      (hMethod : r.method = "PUT") (hBody : r.readBody UpdateRequest.shape = .ok data) :
      ComesTo env r ((UpdateRequest.ofData data).toCall id)
  | archive {text : String} {id : Uuid}
      (hRoute : Route.ofPath? r.path = some (.template text)) (hId : readPathId text = .ok id)
      (hMethod : r.method = "DELETE") : ComesTo env r (.archive id)
  | get {text : String} {id : Uuid}
      (hRoute : Route.ofPath? r.path = some (.template text)) (hId : readPathId text = .ok id)
      (hMethod : r.method = "GET" ∨ r.method = "HEAD") : ComesTo env r (.get id)

/-- A request that is read as a call comes down to it in one of these ways. -/
theorem Request.comesTo {env : Surroundings} {r : Request} {c : Call} (h : r.call? env = some c) :
    r.ComesTo env c := by
  rw [call?] at h
  split at h
  · next hRoute =>
    split at h
    · next hMethod =>
      obtain ⟨data, hData, rfl⟩ := Option.map_eq_some_iff.mp h
      exact .create hRoute hMethod (toOption_eq_some.mp hData)
    · cases h
  · next text hRoute =>
    obtain ⟨id, hId, hRest⟩ := Option.bind_eq_some_iff.mp h
    have hId := toOption_eq_some.mp hId
    split at hRest
    · next hMethod =>
      obtain ⟨data, hData, rfl⟩ := Option.map_eq_some_iff.mp hRest
      exact .update hRoute hId hMethod (toOption_eq_some.mp hData)
    split at hRest
    · next hMethod =>
      cases hRest
      exact .archive hRoute hId hMethod
    split at hRest
    · next hMethod =>
      cases hRest
      exact .get hRoute hId hMethod
    · cases hRest
  · cases h

/-- A request that comes down to a call which records an event asks for a change. -/
theorem Request.ComesTo.isChange {env : Surroundings} {r : Request} {c : Call}
    (h : r.ComesTo env c) {now : Instant} {a : Aggregate} {e : TemplateEvent}
    (hRecords : c.Records now a e) :
    r.method ≠ "GET" ∧ Route.ofPath? r.path ≠ some .preview := by
  cases h with
  | create hRoute hMethod hBody => rw [hRoute, hMethod]; exact ⟨by decide, nofun⟩
  | update hRoute hId hMethod hBody => rw [hRoute, hMethod]; exact ⟨by decide, nofun⟩
  | archive hRoute hId hMethod => rw [hRoute, hMethod]; exact ⟨by decide, nofun⟩
  | get hRoute hId hMethod => exact hRecords.elim

/-- The body of a response is that of a template. -/
def Response.Shows (response : Response) (t : Template) : Prop :=
  response.payload = .json (TemplateResponse.shape.encode (TemplateResponse.toData t))

/-- The status of the response to a call that gave a template. -/
def Service.Call.status : Call → Nat
  | .create .. => 201
  | .archive _ => 204
  | _ => 200

/-- The response to a call. -/
def Service.Call.response (now : Instant) (c : Call) : Except Failure Template → Response
  | .error f => Handler.failureResponse now f
  | .ok t =>
    match c with
    | .archive _ => .plain c.status
    | _ => Handler.templateResponse c.status t

/-- What a call does to the events, and the response to it. -/
def Service.Call.answer (env : Surroundings) (c : Call) (s : EventStore) : Response × EventStore :=
  (c.response env.now (c.effect ⟨env.now, env.now⟩ s).1, (c.effect ⟨env.now, env.now⟩ s).2)

/-- A failure is never told with the status of a success. -/
theorem Code.status_ge (c : Code) : 400 ≤ c.status := by
  cases c <;> decide

/-- Every rejection has the status of an error. -/
theorem Rejection.status_ge (r : Rejection) : 400 ≤ r.status := by
  cases r <;> simp only [status] <;> omega

theorem Response.isSuccess_iff (response : Response) :
    response.isSuccess = true ↔ 200 ≤ response.status ∧ response.status < 300 := by
  rw [Response.isSuccess, Bool.and_eq_true, decide_eq_true_iff, decide_eq_true_iff]

theorem Response.not_isSuccess {response : Response} (h : 400 ≤ response.status) :
    ¬response.isSuccess = true := by
  rw [Response.isSuccess_iff]
  omega

-- ---------------------------------------------------------------------------
-- Handlers
-- ---------------------------------------------------------------------------

/-- The response of an operation is made of its result. -/
def Handler.told {α : Type} (now : Instant) (answer : α → Response) :
    Except Failure α → Response
  | .ok x => answer x
  | .error f => failureResponse now f

/-- Making a response has an effect on the events and leaves storage without planned outages. -/
def Answers (m : StateM Backend Response) (effect : EventStore → Response × EventStore) : Prop :=
  ∀ b : Backend, b.IsSteady →
    (m.run b).1 = (effect b.events).1 ∧ (m.run b).2.events = (effect b.events).2 ∧
      (m.run b).2.IsSteady

/-- Making a response changes no event. If the request was meant as a call, the response says that
it was not carried out. -/
def Refrains (r : Request) (m : StateM Backend Response) : Prop :=
  ∃ response : EventStore → Response,
    Answers m (fun s => (response s, s)) ∧ (r.IsForCall → ∀ s, 400 ≤ (response s).status)

theorem answers_pure (response : Response) : Answers (pure response) fun s => (response, s) :=
  fun _ hb => ⟨rfl, rfl, hb⟩

/-- A response tells what the operation has come to. -/
theorem Handler.run_respond {α : Type} (now : Instant) (op : Operation α) (answer : α → Response)
    (b : Backend) :
    (respond now op answer).run b = (told now answer (op.run b).1, (op.run b).2) := by
  rw [respond, StateT.run_bind]
  show StateT.run (match (op.run b).1 with
    | .ok x => pure (answer x)
    | .error f => pure (failureResponse now f)) (op.run b).2 = _
  cases (op.run b).1 <;> rfl

/-- **The response of an operation** is made of what the operation does to the events. -/
theorem answers_respond {α : Type} (now : Instant) {op : Operation α}
    {effect : EventStore.Effect α} (hOp : op.Does effect) (answer : α → Response) :
    Answers (Handler.respond now op answer) fun s =>
      (Handler.told now answer (effect s).1, (effect s).2) := by
  intro b hb
  obtain ⟨hResult, hEvents, hSteady⟩ := hOp b hb
  rw [Handler.run_respond]
  exact ⟨congrArg (Handler.told now answer) hResult, hEvents, hSteady⟩

/-- What is put around a response changes no event. -/
theorem Answers.map {m : StateM Backend Response} {effect : EventStore → Response × EventStore}
    (h : Answers m effect) (dress : Response → Response) :
    Answers (dress <$> m) fun s => (dress (effect s).1, (effect s).2) := by
  intro b hb
  obtain ⟨hResponse, hEvents, hSteady⟩ := h b hb
  exact ⟨congrArg dress hResponse, hEvents, hSteady⟩

/-- A request that is counted has the same response. -/
theorem Answers.counted {m : StateM Backend Response} {effect : EventStore → Response × EventStore}
    (h : Answers m effect) (r : Request) (route : Route) :
    Answers (do let response ← m; Server.count r route response.status; return response) effect :=
  h

/-- What is added to a response does not matter to the events. -/
theorem Refrains.map {r : Request} {m : StateM Backend Response} (h : Refrains r m)
    {dress : Response → Response}
    (hStatus : ∀ response, (dress response).status = response.status) :
    Refrains r (dress <$> m) := by
  obtain ⟨response, hAnswers, hRefused⟩ := h
  refine ⟨fun s => dress (response s), hAnswers.map dress, fun hMeant s => ?_⟩
  rw [hStatus]
  exact hRefused hMeant s

/-- A response that says that nothing was carried out. -/
theorem refrains_refused (r : Request) {response : Response} (h : 400 ≤ response.status) :
    Refrains r (pure response) :=
  ⟨fun _ => response, answers_pure response, fun _ _ => h⟩

/-- A response to a request that was not meant as a call. -/
theorem refrains_of_other {r : Request} (hOther : ¬r.IsForCall) {m : StateM Backend Response}
    {response : EventStore → Response} (h : Answers m fun s => (response s, s)) : Refrains r m :=
  ⟨response, h, fun hMeant => absurd hMeant hOther⟩

/-- What a preview does changes no event. -/
theorem Service.does_preview (renderer : Renderer) (body : PreviewRequest) :
    ∃ result : Except Failure (List UInt8),
      (if body.source.toList.all Text.isBlank then Operation.fail .blankSource
        else Service.toPdf renderer body.source body.values).Does fun s => (result, s) := by
  have hFail : ∀ f : Failure, ∃ result : Except Failure (List UInt8),
      (Operation.fail f : Operation (List UInt8)).Does fun s => (result, s) :=
    fun f => ⟨_, Operation.does_fail f⟩
  split
  · exact hFail _
  rw [Service.toPdf, Renderer.compile]
  split
  · exact hFail _
  · exact hFail _
  · exact hFail _
  · next run =>
    simp only
    split
    · exact hFail _
    · split
      · exact ⟨_, (Operation.does_count .renderings 1).bind fun _ => Operation.does_pure _⟩
      · exact ⟨_, (Operation.does_count .renderings 1).bind fun _ => Operation.does_fail _⟩

-- ---------------------------------------------------------------------------
-- Routes
-- ---------------------------------------------------------------------------

/-- No route takes the question what may be asked. -/
theorem Route.ne_options {method : String} {route : Route} (h : method ∈ route.methods) :
    method ≠ "OPTIONS" := by
  rintro rfl
  cases route <;> rw [methods] at h <;> revert h <;> decide

/-- What the handler makes of a call's template is the response of the call. -/
theorem Handler.told_response (env : Surroundings) (c : Call) {answer : Template → Response}
    (hAnswer : ∀ t, answer t = c.response env.now (.ok t)) :
    told env.now answer = c.response env.now := by
  funext result
  cases result with
  | error f => cases c <;> rfl
  | ok t => exact hAnswer t

/-- **A request that comes down to a call** is of a method that its route takes, and its handler
makes the response of the call. -/
theorem Request.ComesTo.run {env : Surroundings} {r : Request} {c : Call} (h : r.ComesTo env c) :
    ∃ route answer, Route.ofPath? r.path = some route ∧ r.method ∈ route.methods ∧
      Handler.run env r route = Handler.respond env.now (c.perform ⟨env.now, env.now⟩) answer ∧
      ∀ t, answer t = c.response env.now (.ok t) := by
  cases h with
  | create hRoute hMethod hBody =>
    refine ⟨_, Handler.templateResponse 201, hRoute, by rw [hMethod]; decide, ?_, fun t => rfl⟩
    rw [Handler.run, if_pos hMethod, Handler.create, hBody]
    rfl
  | update hRoute hId hMethod hBody =>
    refine ⟨_, Handler.templateResponse 200, hRoute, by rw [hMethod, Route.methods]; decide, ?_,
      fun t => rfl⟩
    rw [Handler.run, if_pos hMethod, Handler.update, hId, hBody]
    rfl
  | archive hRoute hId hMethod =>
    refine ⟨_, fun _ => .plain 204, hRoute, by rw [hMethod, Route.methods]; decide, ?_,
      fun t => rfl⟩
    rw [Handler.run, hMethod, if_neg (by decide), if_pos rfl, Handler.archive, hId]
    rfl
  | get hRoute hId hMethod =>
    have hPut : r.method ≠ "PUT" := by
      rcases hMethod with h | h <;> rw [h] <;> decide
    have hDelete : r.method ≠ "DELETE" := by
      rcases hMethod with h | h <;> rw [h] <;> decide
    refine ⟨_, Handler.templateResponse 200, hRoute, ?_, ?_, fun t => rfl⟩
    · rcases hMethod with h | h <;> rw [h, Route.methods] <;> decide
    · rw [Handler.run, if_neg hPut, if_neg hDelete, Handler.get, hId]
      rfl

/-- It is answered with what the call does to the events. -/
theorem answers_run {env : Surroundings} {r : Request} {c : Call} (h : r.ComesTo env c) :
    ∃ route, Route.ofPath? r.path = some route ∧ r.method ∈ route.methods ∧
      Answers (Handler.run env r route) (c.answer env) := by
  obtain ⟨route, answer, hRoute, hMethod, hRun, hAnswer⟩ := h.run
  refine ⟨route, hRoute, hMethod, ?_⟩
  have hAnswers := answers_respond env.now (c.does_perform ⟨env.now, env.now⟩) answer
  rw [Handler.told_response env c hAnswer] at hAnswers
  rw [hRun]
  exact hAnswers

/-- A handler refrains if it does so for everything that it accepts. -/
theorem refrains_accept {α : Type} {r : Request} {taken : Except Rejection α}
    {next : α → StateM Backend Response} (h : ∀ x, taken = .ok x → Refrains r (next x)) :
    Refrains r (Handler.accept taken next) := by
  cases taken with
  | error rejection => exact refrains_refused r rejection.status_ge
  | ok x => exact h x rfl

/-- **A request that comes down to no call** changes no event; if it was meant as one, it is
refused. -/
theorem refrains_run {env : Surroundings} {r : Request} {route : Route}
    (hRoute : Route.ofPath? r.path = some route) (hMethod : r.method ∈ route.methods)
    (hCall : r.call? env = none) : Refrains r (Handler.run env r route) := by
  have hOther : ¬route.IsForCall r.method → ¬r.IsForCall := by
    rintro hNot ⟨other, hSame, hMeant⟩
    cases hRoute.symm.trans hSame
    exact hNot hMeant
  rw [Request.call?, hRoute] at hCall
  cases route with
  | health => exact refrains_of_other (hOther id) (answers_pure _)
  | metrics => exact refrains_of_other (hOther id) (answers_pure _)
  | preview =>
    rw [Handler.run, Handler.preview]
    refine refrains_accept fun data hData => ?_
    obtain ⟨result, hDoes⟩ := Service.does_preview env.renderer (PreviewRequest.ofData data)
    exact refrains_of_other (hOther id) (answers_respond env.now hDoes Handler.document)
  | history text =>
    rw [Handler.run, Handler.history]
    refine refrains_accept fun id hId => ?_
    exact refrains_of_other (hOther (·)) (answers_respond env.now (Service.does_history id) _)
  -- only two routes are for calls, and without a call something must have been refused
  | templates =>
    simp only at hCall
    rw [Handler.run]
    split at hCall
    · next hPost =>
      rw [if_pos hPost, Handler.create]
      refine refrains_accept fun data hData => ?_
      rw [hData] at hCall
      cases hCall
    · next hPost =>
      rw [if_neg hPost]
      exact refrains_of_other (hOther hPost) (answers_pure _)
  | template text =>
    rw [Handler.run, Handler.update, Handler.archive, Handler.get]
    cases hId : readPathId text with
    | error rejection =>
      have hRefused : Refrains r (pure rejection.toResponse) :=
        refrains_refused r rejection.status_ge
      split
      · exact hRefused
      · split
        · exact hRefused
        · exact hRefused
    | ok id =>
      simp only [hId, Except.toOption, Option.bind_some] at hCall
      split at hCall
      · next hPut =>
        rw [if_pos hPut]
        refine refrains_accept fun _ _ => refrains_accept fun data hData => ?_
        rw [hData] at hCall
        cases hCall
      split at hCall
      · cases hCall
      split at hCall
      · cases hCall
      · next hPut hDelete hGet =>
        -- the route allows no method besides those of the four calls
        rw [Route.methods] at hMethod
        simp only [List.mem_cons, List.not_mem_nil, or_false] at hMethod
        rcases hMethod with h | h | h | h
        · exact absurd (.inl h) hGet
        · exact absurd (.inr h) hGet
        · exact absurd h hPut
        · exact absurd h hDelete

-- ---------------------------------------------------------------------------
-- The server
-- ---------------------------------------------------------------------------

namespace Server

variable (server : Server) (env : Surroundings) (r : Request)

/-- The response as it leaves the server. -/
def dressed (response : Response) : Response :=
  server.withOrigin r
    ((if r.method = "HEAD" then response.withoutBody else response).withHeader "x-request-id"
      (requestId env r))

theorem withOrigin_status (response : Response) :
    (server.withOrigin r response).status = response.status := by
  rw [withOrigin]
  cases server.allowedOrigin r <;> rfl

theorem withOrigin_payload (response : Response) :
    (server.withOrigin r response).payload = response.payload := by
  rw [withOrigin]
  cases server.allowedOrigin r <;> rfl

/-- Headers do not change the status. -/
theorem dressed_status (response : Response) :
    (server.dressed env r response).status = response.status := by
  rw [dressed, withOrigin_status]
  split <;> rfl

/-- Unless the method is `HEAD`, the body stays, too. -/
theorem dressed_payload (hMethod : r.method ≠ "HEAD") (response : Response) :
    (server.dressed env r response).payload = response.payload := by
  rw [dressed, withOrigin_payload, if_neg hMethod]
  rfl

variable {server env r}

/-- **A request that comes down to a call** is answered with what the call does. -/
theorem served_call (server : Server) {c : Call} (hCall : r.ComesTo env c) :
    Answers (server.serve env r) fun s =>
      (server.dressed env r (c.answer env s).1, (c.answer env s).2) := by
  obtain ⟨route, hRoute, hMethod, hAnswers⟩ := answers_run hCall
  have hOptions : r.method ≠ "OPTIONS" := Route.ne_options hMethod
  rw [serve, if_neg hOptions]
  simp only [hRoute, serveRoute, if_pos hMethod]
  exact (hAnswers.counted r route).map (server.dressed env r)

/-- **A request that comes down to no call** changes no event; if it was meant as one, it is
refused. -/
theorem served_quiet (server : Server) (hCall : r.call? env = none) :
    Refrains r (server.serve env r) := by
  rw [serve]
  by_cases hOptions : r.method = "OPTIONS"
  · have hOther : ¬r.IsForCall := by
      rintro ⟨route, -, hMeant⟩
      rw [hOptions] at hMeant
      cases route <;> simp [Route.IsForCall] at hMeant
    rw [if_pos hOptions]
    exact refrains_of_other hOther (answers_pure _)
  rw [if_neg hOptions]
  have hDressed : ∀ {m : StateM Backend Response}, Refrains r m →
      Refrains r (server.dressed env r <$> m) :=
    fun h => h.map (server.dressed_status env r)
  cases hRoute : Route.ofPath? r.path with
  | none => exact hDressed (refrains_refused r (by decide : 400 ≤ (Response.plain 404).status))
  | some route =>
    simp only [serveRoute]
    by_cases hMethod : r.method ∈ route.methods
    · obtain ⟨response, hAnswers, hRefused⟩ := refrains_run hRoute hMethod hCall
      rw [if_pos hMethod]
      exact hDressed ⟨response, hAnswers.counted r route, hRefused⟩
    · rw [if_neg hMethod]
      exact hDressed ⟨_, (answers_pure (withMethods route (.plain 405))).counted r route,
        fun _ _ => (by decide : 400 ≤ 405)⟩

-- ---------------------------------------------------------------------------
-- Requests that change the events
-- ---------------------------------------------------------------------------

/-- Each call has the status of a success for when it succeeds. -/
theorem status_ok (c : Call) : 200 ≤ c.status ∧ c.status < 300 := by
  cases c <;> simp only [Call.status] <;> omega

theorem status_response_ok (now : Instant) (c : Call) (t : Template) :
    (c.response now (.ok t)).status = c.status := by
  cases c <;> rfl

/-- A call is told as a success exactly if it gave a template. -/
theorem isSuccess_response (now : Instant) (c : Call) (result : Except Failure Template) :
    (200 ≤ (c.response now result).status ∧ (c.response now result).status < 300) ↔
      ∃ t, result = .ok t := by
  cases result with
  | error f =>
    have hStatus : 400 ≤ (c.response now (.error f)).status := f.code.status_ge
    refine ⟨fun h => ?_, ?_⟩
    · omega
    · rintro ⟨t, ⟨⟩⟩
  | ok t =>
    rw [status_response_ok]
    exact ⟨fun _ => ⟨t, rfl⟩, fun _ => status_ok c⟩

/-- **A request that is answered as a success** and comes down to a call: the call gave a template,
and did to the events what the request did. -/
theorem serve_success {b : Backend} (hb : b.IsSteady) {c : Call} (hCall : r.ComesTo env c)
    (hSuccess : ((server.serve env r).run b).1.isSuccess = true) :
    ∃ t, c.effect ⟨env.now, env.now⟩ b.events = (.ok t, ((server.serve env r).run b).2.events) ∧
      (r.method ≠ "HEAD" → ((server.serve env r).run b).1.payload =
        (c.response env.now (.ok t)).payload) := by
  obtain ⟨hResponse, hEvents, -⟩ := served_call server hCall b hb
  rw [hResponse, Response.isSuccess_iff, dressed_status] at hSuccess
  obtain ⟨t, hResult⟩ := (isSuccess_response env.now c _).mp hSuccess
  refine ⟨t, ?_, fun hMethod => ?_⟩
  · rw [hEvents, ← hResult]
    rfl
  · rw [hResponse, dressed_payload server env r hMethod, Call.answer, hResult]

/-- A request that is not answered as a success leaves the events alone, and so does one that only
reads or renders. -/
theorem serve_quiet {b : Backend} (hb : b.IsSteady)
    (h : ((server.serve env r).run b).1.isSuccess = false ∨ r.method = "GET" ∨
      Route.ofPath? r.path = some .preview) :
    ((server.serve env r).run b).2.events = b.events := by
  cases hCall : r.call? env with
  | none =>
    obtain ⟨response, hAnswers, -⟩ := served_quiet server hCall
    exact (hAnswers b hb).2.1
  | some c =>
    have hComes := Request.comesTo hCall
    obtain ⟨hResponse, hEvents, -⟩ := served_call server hComes b hb
    have hEnds := Call.effect_ends ⟨env.now, env.now⟩ c b.events
    generalize hEffect : c.effect ⟨env.now, env.now⟩ b.events = outcome at hEnds
    have hAfter : ((server.serve env r).run b).2.events = outcome.2 := by
      rw [hEvents, ← hEffect]
      rfl
    cases hEnds with
    | failed f => exact hAfter
    | rested hReplay hRests hTemplate => exact hAfter
    | @appended _ _ _ t hReplay hActs hRecords hTaken hTemplate =>
      obtain ⟨hGet, hPreview⟩ := hComes.isChange hRecords
      rcases h with hFailed | hMethod | hRoute
      -- what has been appended is told
      · have hSuccess : ((server.serve env r).run b).1.isSuccess = true := by
          rw [Response.isSuccess_iff, hResponse, dressed_status]
          refine (isSuccess_response env.now c _).mpr ⟨t, ?_⟩
          rw [hEffect]
        rw [hSuccess] at hFailed
        cases hFailed
      -- and what only reads or renders appends nothing
      · exact absurd hMethod hGet
      · exact absurd hRoute hPreview

/-- A request that is meant as a call and is answered as a success comes down to a call, which gave
a template. -/
theorem serve_meant {b : Backend} (hb : b.IsSteady) (hMeant : r.IsForCall)
    (hSuccess : ((server.serve env r).run b).1.isSuccess = true) :
    ∃ c t, r.call? env = some c ∧
      c.effect ⟨env.now, env.now⟩ b.events = (.ok t, ((server.serve env r).run b).2.events) ∧
      (r.method ≠ "HEAD" → ((server.serve env r).run b).1.payload =
        (c.response env.now (.ok t)).payload) := by
  cases hCall : r.call? env with
  | none =>
    obtain ⟨response, hAnswers, hRefused⟩ := served_quiet server hCall
    refine absurd hSuccess (Response.not_isSuccess ?_)
    rw [(hAnswers b hb).1]
    exact hRefused hMeant b.events
  | some c =>
    obtain ⟨t, hEffect, hPayload⟩ := serve_success hb (Request.comesTo hCall) hSuccess
    exact ⟨c, t, rfl, hEffect, hPayload⟩

/-- A request to create a template that is answered as a success has added the record of that, to
the stream of the template in the response and as its version. -/
theorem serve_post {b : Backend} (hb : b.IsSteady)
    (hSuccess : ((server.serve env r).run b).1.isSuccess = true) (hMethod : r.method = "POST")
    (hRoute : Route.ofPath? r.path = some .templates) :
    ∃ t record, ((server.serve env r).run b).1.Shows t ∧ t.id = env.fresh.template ∧
      b.events.Adds t.id record ((server.serve env r).run b).2.events ∧
      record.version = t.version ∧ record.kind = TemplateEvent.createdKind := by
  obtain ⟨c, t, hCall, hEffect, hPayload⟩ := serve_meant hb ⟨_, hRoute, hMethod⟩ hSuccess
  have hShown := hPayload (by rw [hMethod]; decide)
  obtain ⟨a, -, hWrites, hId⟩ := (Call.ends_of_effect hEffect).writes
  cases Request.comesTo hCall with
  | create hRoute' hMethod' hBody =>
    rcases hWrites with ⟨-, hRests⟩ | ⟨-, e, b', record, hRecords, -, hKind, hAdds, hVersion⟩
    · exact hRests.elim
    · rw [hRecords] at hKind
      exact ⟨t, record, hShown, hId, hId ▸ hAdds, hVersion, hKind⟩
  | update hRoute' => cases hRoute.symm.trans hRoute'
  | archive hRoute' => cases hRoute.symm.trans hRoute'
  | get hRoute' => cases hRoute.symm.trans hRoute'

/-- A request to change a template that is answered as a success has added the record of that, to
the stream of the template in the response and as its version. -/
theorem serve_put {b : Backend} (hb : b.IsSteady) {text : String}
    (hSuccess : ((server.serve env r).run b).1.isSuccess = true) (hMethod : r.method = "PUT")
    (hRoute : Route.ofPath? r.path = some (.template text)) :
    ∃ t record, ((server.serve env r).run b).1.Shows t ∧ readPathId text = .ok t.id ∧
      b.events.Adds t.id record ((server.serve env r).run b).2.events ∧
      record.version = t.version ∧ record.kind = TemplateEvent.updatedKind := by
  have hMeant : r.IsForCall :=
    ⟨_, hRoute, by rw [hMethod]; exact (by decide : "PUT" ≠ "OPTIONS")⟩
  obtain ⟨c, t, hCall, hEffect, hPayload⟩ := serve_meant hb hMeant hSuccess
  have hShown := hPayload (by rw [hMethod]; decide)
  obtain ⟨a, -, hWrites, hId⟩ := (Call.ends_of_effect hEffect).writes
  cases Request.comesTo hCall with
  | create hRoute' => cases hRoute.symm.trans hRoute'
  | update hRoute' hPathId hMethod' hBody =>
    cases hRoute.symm.trans hRoute'
    rcases hWrites with ⟨-, hRests⟩ | ⟨-, e, b', record, hRecords, -, hKind, hAdds, hVersion⟩
    · exact hRests.elim
    · obtain ⟨st, -, rfl⟩ := hRecords
      exact ⟨t, record, hShown, hId ▸ hPathId, hId ▸ hAdds, hVersion, hKind⟩
  | archive hRoute' hPathId hMethod' => simp [hMethod] at hMethod'
  | get hRoute' hPathId hMethod' => simp [hMethod] at hMethod'

/-- A request to archive a template that is answered as a success has added the record of that, or
nothing if the template was archived already. -/
theorem serve_delete {b : Backend} (hb : b.IsSteady) {text : String}
    (hSuccess : ((server.serve env r).run b).1.isSuccess = true) (hMethod : r.method = "DELETE")
    (hRoute : Route.ofPath? r.path = some (.template text)) :
    ∃ id a st, readPathId text = .ok id ∧
      Aggregate.replay id (b.events.held id) = .ok a ∧ a.state = some st ∧
      if st.archived then ((server.serve env r).run b).2.events = b.events
      else ∃ record, b.events.Adds id record ((server.serve env r).run b).2.events ∧
        record.kind = TemplateEvent.archivedKind := by
  have hMeant : r.IsForCall :=
    ⟨_, hRoute, by rw [hMethod]; exact (by decide : "DELETE" ≠ "OPTIONS")⟩
  obtain ⟨c, t, hCall, hEffect, -⟩ := serve_meant hb hMeant hSuccess
  obtain ⟨a, hReplay, hWrites, -⟩ := (Call.ends_of_effect hEffect).writes
  cases Request.comesTo hCall with
  | create hRoute' => cases hRoute.symm.trans hRoute'
  | update hRoute' hPathId hMethod' => simp [hMethod] at hMethod'
  | @archive _ id hRoute' hPathId hMethod' =>
    cases hRoute.symm.trans hRoute'
    rcases hWrites with ⟨hSame, st, hState, hArchived⟩ |
      ⟨hActs, e, b', record, hRecords, hTaken, hKind, hAdds, -⟩
    · exact ⟨id, a, st, hPathId, hReplay, hState, by rwa [if_pos hArchived]⟩
    · rw [hRecords] at hKind hTaken
      cases hState : a.state with
      | none =>
        rw [Aggregate.apply, hState] at hTaken
        cases hTaken
      | some st =>
        have hArchived : ¬st.archived = true := fun h => hActs ⟨st, hState, h⟩
        refine ⟨id, a, st, hPathId, hReplay, hState, ?_⟩
        rw [if_neg hArchived]
        exact ⟨record, hAdds, hKind⟩
  | get hRoute' hPathId hMethod' => simp [hMethod] at hMethod'

/-- **Which requests change the events, and how**, on any events. A request that is not answered as
a success, one that only reads and a preview change nothing. One that creates or changes a template
and is answered as a success has added one record, to the stream of the template in the response and
as its version. One that archives a template and is answered as a success has added the record of
that, or nothing if the template was archived already. -/
theorem serve_writes {b : Backend} (hb : b.IsSteady) (server : Server) (env : Surroundings)
    (r : Request) :
    let response := ((server.serve env r).run b).1
    let after := ((server.serve env r).run b).2.events
    ((response.isSuccess = false ∨ r.method = "GET" ∨ Route.ofPath? r.path = some .preview) →
        after = b.events) ∧
      (response.isSuccess = true → r.method = "POST" → Route.ofPath? r.path = some .templates →
        ∃ t record, response.Shows t ∧ t.id = env.fresh.template ∧ b.events.Adds t.id record after ∧
          record.version = t.version ∧ record.kind = TemplateEvent.createdKind) ∧
      (∀ text, response.isSuccess = true → r.method = "PUT" →
        Route.ofPath? r.path = some (.template text) →
        ∃ t record, response.Shows t ∧ readPathId text = .ok t.id ∧
          b.events.Adds t.id record after ∧ record.version = t.version ∧
          record.kind = TemplateEvent.updatedKind) ∧
      ∀ text, response.isSuccess = true → r.method = "DELETE" →
        Route.ofPath? r.path = some (.template text) →
        ∃ id a st, readPathId text = .ok id ∧
          Aggregate.replay id (b.events.held id) = .ok a ∧ a.state = some st ∧
          if st.archived then after = b.events
          else ∃ record, b.events.Adds id record after ∧
            record.kind = TemplateEvent.archivedKind := by
  exact ⟨serve_quiet hb, serve_post hb, fun _ => serve_put hb, fun _ => serve_delete hb⟩

/-- Events of which one stream is torn: its only record is of a kind that replay does not know. -/
def tornEvents : EventStore :=
  EventStore.empty.place
    ⟨TemplateEvent.aggregateType, default, 7, 3, "TemplateShredded", .null, default⟩

/-- What a request meets where nothing can be rendered. -/
def bareSurroundings (fresh : Uuid) : Surroundings :=
  ⟨default, fresh, .empty, ⟨"typst", .missing, default⟩⟩

/-- A request to create a template. -/
def postRequest (body : String) : Request :=
  ⟨"POST", "/api/templates", [("content-type", "application/json")], body⟩

/-- Beside a torn stream a template is created, as one record more. On the torn stream itself the
creation is refused, and nothing is added. -/
theorem serve_writes_of_torn :
    (Backend.ofEvents tornEvents).IsSteady ∧
      (∃ t record,
        ((serve ⟨[]⟩ (bareSurroundings ⟨1⟩) (postRequest "\x7b\"name\":\"a\"\x7d")).run
          (.ofEvents tornEvents)).1.Shows t ∧
        t.id = ⟨1⟩ ∧
        tornEvents.Adds t.id record
          ((serve ⟨[]⟩ (bareSurroundings ⟨1⟩) (postRequest "\x7b\"name\":\"a\"\x7d")).run
            (.ofEvents tornEvents)).2.events) ∧
      ((serve ⟨[]⟩ (bareSurroundings default) (postRequest "\x7b\"name\":\"a\"\x7d")).run
        (.ofEvents tornEvents)).2.events = tornEvents := by
  have hSteady := Backend.isSteady_ofEvents tornEvents
  refine ⟨hSteady, ?_, ?_⟩
  · obtain ⟨-, hPost, -⟩ := serve_writes hSteady ⟨[]⟩ (bareSurroundings ⟨1⟩)
      (postRequest "\x7b\"name\":\"a\"\x7d")
    obtain ⟨t, record, hShows, hId, hAdds, -⟩ := hPost (by decide +kernel) rfl (by decide +kernel)
    exact ⟨t, record, hShows, hId, hAdds⟩
  · exact (serve_writes hSteady ⟨[]⟩ (bareSurroundings default)
      (postRequest "\x7b\"name\":\"a\"\x7d")).1 (.inl (by decide +kernel))

end Server

end Galley
