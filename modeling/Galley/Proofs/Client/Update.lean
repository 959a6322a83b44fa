import Galley.Proofs.Client.Session

/-!
# Updates among other clients

To update a template, the client reads it, fills in what it was not given, and asks for the change
with a version: the one that it read, or the one that it was told to expect. Other clients may write
before it reads and before it asks.

The server takes the change exactly on top of that version. If it is the version that was read, the
template has not changed since, and what is filled in is what the template holds. But a version that
was told can be a later one. Then the change is taken on top of a template that nobody has read, and
what is filled in goes back to what was read before, whatever others wrote in between.

Main results:

* `update_of_gives` — what an update makes of the template before it and of the one that was read.
* `not_update_keeps_omitted` — what was not given does not always stay as it was.
-/

namespace Galley

open Service (Call Clock Keeps Agrees Registry Row)
open Client (Gives sharedWorld performUpdate contentOf Turn answered)

-- ---------------------------------------------------------------------------
-- Templates held one after another
-- ---------------------------------------------------------------------------

/-- Templates of one identifier that are held with the same stream are the same. -/
theorem Backend.Holds.eq_of_held {b b' : Backend} {x y : Template} (h : b.Holds x)
    (h' : b'.Holds y) (hId : x.id = y.id) (hHeld : b.events.held x.id = b'.events.held x.id) :
    x = y := by
  obtain ⟨a, hReplay, hTemplate⟩ := h
  obtain ⟨a', hReplay', hTemplate'⟩ := h'
  rw [← hId, ← hHeld] at hReplay'
  cases hReplay.symm.trans hReplay'
  cases hTemplate.symm.trans hTemplate'
  rfl

/-- The version of a template that is held is the length of its stream. -/
theorem Backend.Holds.version_eq {b : Backend} {t : Template} (h : b.Holds t) :
    t.version = (b.events.held t.id).length := by
  obtain ⟨a, hReplay, hTemplate⟩ := h
  exact (Aggregate.version_of_snapshot hTemplate).trans (Aggregate.replay_ok hReplay).2.1

/-- **A template that is held later** is of a later version, unless it is the same. -/
theorem Backend.Holds.later {b b' : Backend} {x y : Template} (h : b.Holds x) (h' : b'.Holds y)
    (hId : x.id = y.id) (hGrown : b.events.held x.id <+: b'.events.held x.id) :
    x.version ≤ y.version ∧ (x.version = y.version → x = y) := by
  have hVersion := h.version_eq
  have hVersion' := h'.version_eq
  rw [← hId] at hVersion'
  refine ⟨?_, fun hSame => h.eq_of_held h' hId (hGrown.eq_of_length ?_)⟩
  · rw [hVersion, hVersion']
    exact hGrown.length_le
  · rw [← hVersion, ← hVersion', hSame]

/-- A row is held as its template. -/
theorem holds_of_row {b : Backend} {rows : Registry} (h : Agrees b.events rows) {id : Uuid}
    {row : Row} (hRow : rows id = some row) : b.Holds (row.toTemplate id) :=
  ⟨row.toAggregate id, (h.load hRow).2.2.1, rfl⟩

/-- A request to change something that is answered as a success is about a template. -/
theorem Server.route_of_put {server : Server} {env : Surroundings} {r : Request} {b : Backend}
    (hMethod : r.method = "PUT") (hSuccess : ((server.serve env r).run b).1.isSuccess = true) :
    ∃ text, Route.ofPath? r.path = some (.template text) := by
  have hOptions : r.method ≠ "OPTIONS" := by rw [hMethod]; decide
  have hRefused : ∀ response : Response, 400 ≤ response.status →
      ((server.serve env r).run b).1 ≠ server.dressed env r response := by
    intro response hStatus hSame
    refine Response.not_isSuccess ?_ hSuccess
    rw [hSame, dressed_status]
    exact hStatus
  rw [serve, if_neg hOptions] at hRefused
  cases hRoute : Route.ofPath? r.path with
  | none =>
    rw [hRoute] at hRefused
    exact absurd rfl (hRefused (.plain 404) (by decide : 400 ≤ 404))
  | some route =>
    rw [hRoute] at hRefused
    by_cases hTaken : r.method ∈ route.methods
    · cases route with
      | template text => exact ⟨text, rfl⟩
      | _ => rw [hMethod, Route.methods] at hTaken; exact absurd hTaken (by decide)
    · simp only [serveRoute, if_neg hTaken] at hRefused
      exact absurd rfl (hRefused (withMethods route (.plain 405)) (by decide : 400 ≤ 405))

-- ---------------------------------------------------------------------------
-- The requests of an update
-- ---------------------------------------------------------------------------

namespace UpdateRequest

theorem shape_isWellFormed : shape.isWellFormed = true := by decide

theorem encode_toData {name description : String} {content : Content} {e : Nat} :
    shape.encode (toData ⟨name, description, content, some e⟩) =
      .object [("name", .string name), ("description", .string description),
        ("content", content.toJson), ("expectedVersion", .nat e)] :=
  rfl

theorem isRealFree_encode {name description : String} {content : Content} {e : Nat} :
    (shape.encode (toData ⟨name, description, content, some e⟩)).isRealFree =
      content.toJson.isRealFree := by
  rw [encode_toData]
  simp only [Json.isRealFree, Json.haveRealFree, Json.nat, Bool.true_and, Bool.and_true]

/-- An update request is one level deeper than its content. -/
theorem depth_encode {name description : String} {content : Content} {e : Nat} :
    (shape.encode (toData ⟨name, description, content, some e⟩)).depth =
      content.toJson.depth + 1 := by
  rw [encode_toData]
  simp only [Json.depth, Json.depthOfMembers, Json.nat]
  omega

theorem holds_toData {name description : String} {content : Content} {e : Nat}
    (hValid : content.IsValid) (hExpected : e < Word.values64) :
    shape.Holds (toData ⟨name, description, content, some e⟩) :=
  ⟨trivial, rfl, trivial, rfl, Content.holds_toData hValid, rfl, hExpected, trivial⟩

/-- An update request is read back from its data. -/
theorem ofData_toData (u : UpdateRequest) : ofData u.toData = u := by
  rfl

/-- The request for a change that was given in part: the rest is filled in from the template that
was read. -/
def filled (read : Template) (name description : Option String) (content : Option Content)
    (expected : Option Nat) : UpdateRequest :=
  ⟨name.getD read.name, description.getD read.description, content.getD read.content,
    some (expected.getD read.version)⟩

end UpdateRequest

namespace Client

/-- The client's request to read what is at an address. -/
def getFrom (address : String) : Request := (Call.get "").toRequest address

/-- The client's request to change what is at an address. -/
def putTo (address : String) (u : UpdateRequest) : Request :=
  (Call.put "" (UpdateRequest.shape.encode u.toData)).toRequest address

@[simp] theorem method_getFrom (address : String) : (getFrom address).method = "GET" :=
  rfl

@[simp] theorem method_putTo (address : String) (u : UpdateRequest) :
    (putTo address u).method = "PUT" :=
  rfl

theorem body_putTo (address : String) (u : UpdateRequest) :
    (putTo address u).body = (UpdateRequest.shape.encode u.toData).toCompact :=
  rfl

/-- An update is put where the template is got. -/
theorem path_putTo (address : String) (u : UpdateRequest) :
    (putTo address u).path = (getFrom address).path :=
  rfl

/-- Content that is taken from a file has been read, so it is valid. -/
theorem isValid_contentOf {files : String → Except String String} {path : Option String}
    {content : Content} (h : contentOf files path = some content) :
    content.IsValid := by
  obtain ⟨path, -, hFile⟩ := Option.bind_eq_some_iff.mp h
  obtain ⟨text, -, hParse⟩ := Option.bind_eq_some_iff.mp hFile
  have hParse := toOption_eq_some.mp hParse
  rw [Content.parse] at hParse
  split at hParse
  · next data hData =>
    cases hParse
    exact (Content.of_admits (Json.Shape.admits_of_parse hData)).1
  · cases hParse

/-- **An update gives a template** exactly if reading the template does, the content can be read if
there is a file with it, and the change that is filled in gives the template. -/
theorem gives_performUpdate {server : Server} {files : String → Except String String}
    {base : String} {id : Uuid} {name description content : Option String} {expected : Option Nat}
    {b : Backend} {first second : Turn} {t : Template} {s' : Backend × List Turn} :
    Gives (sharedWorld server files) (performUpdate base id name description content expected)
        (b, [first, second]) t s' ↔
      ∃ address read,
        let atRead := server.visitAll b first.others
        let atWrite := server.visitAll (server.visit atRead ⟨first.env, getFrom address⟩)
          second.others
        let change := putTo address
          (UpdateRequest.filled read name description (contentOf files content) expected)
        Address.destination (base ++ templatePath id) = .ok address ∧
          answered ((server.serve first.env (getFrom address)).run atRead).1 = .ok read ∧
          (contentOf files content).isSome = content.isSome ∧
          answered ((server.serve second.env change).run atWrite).1 = .ok t ∧
          s' = (server.visit atWrite ⟨second.env, change⟩, []) := by
  rw [performUpdate]
  constructor
  · -- asked twice: the second answer is to what was made of the first
    intro hGives
    obtain ⟨read, _, hGet, hRest⟩ := gives_bind.mp hGives
    obtain ⟨_, _, _, address, hState, hAddress, hRead, rfl⟩ := gives_askTemplate.mp hGet
    simp only [Prod.mk.injEq, List.cons.injEq] at hState
    obtain ⟨rfl, rfl, rfl⟩ := hState
    obtain ⟨_, _, hContent, hPut⟩ := gives_bind.mp hRest
    obtain ⟨hGiven, rfl, rfl⟩ := gives_contentFrom.mp hContent
    obtain ⟨_, _, _, address', hState, hAddress', hAnswered, hAfter⟩ := gives_askTemplate.mp hPut
    simp only [Prod.mk.injEq, List.cons.injEq] at hState
    obtain ⟨rfl, rfl, rfl⟩ := hState
    have hSame : address' = address := Except.ok.inj (hAddress'.symm.trans hAddress)
    subst hSame
    exact ⟨address', read, hAddress, hRead, hGiven, hAnswered, hAfter⟩
  · rintro ⟨address, read, hAddress, hRead, hGiven, hAnswered, rfl⟩
    exact gives_bind.mpr ⟨read, _,
      gives_askTemplate.mpr ⟨_, _, _, address, rfl, hAddress, hRead, rfl⟩,
      gives_bind.mpr ⟨_, _, gives_contentFrom.mpr ⟨hGiven, rfl, rfl⟩,
        gives_askTemplate.mpr ⟨_, _, _, address, rfl, hAddress, hAnswered, rfl⟩⟩⟩

end Client

/-- **A change that the client asks for** and that is carried out has reached the server as it was
meant: as an update of the template that is at the address. -/
theorem call?_putTo_eq {env : Surroundings} {address name description : String} {content : Content}
    {e : Nat} (hValid : content.IsValid) (hFree : content.toJson.isRealFree = true)
    (hExpected : e < Word.values64) {c : Call}
    (h : (Client.putTo address ⟨name, description, content, some e⟩).call? env = some c) :
    ∃ text id, Route.ofPath? (Client.getFrom address).path = some (.template text) ∧
      readPathId text = .ok id ∧ c = .update id name description content (some e) := by
  cases Request.comesTo h with
  | create hRoute hMethod hBody => simp at hMethod
  | @update text id data hRoute hId hMethod hBody =>
    have hSame : data = UpdateRequest.toData ⟨name, description, content, some e⟩ :=
      Request.eq_of_readBody_written (Client.body_putTo address _) UpdateRequest.shape_isWellFormed
        (UpdateRequest.holds_toData hValid hExpected)
        (UpdateRequest.isRealFree_encode.trans hFree) hBody
    exact ⟨text, id, hRoute, hId, by rw [hSame, UpdateRequest.ofData_toData]; rfl⟩
  | archive hRoute hId hMethod => simp at hMethod
  | get hRoute hId hMethod => simp at hMethod

-- ---------------------------------------------------------------------------
-- The two requests one after another
-- ---------------------------------------------------------------------------

/-- What an update makes of a template: it takes what it was given, and what it was not given from
the template that was read. -/
def Template.overwritten (before read : Template) (now : Instant) (name description : Option String)
    (content : Option Content) : Template :=
  { before with
    name := name.getD read.name, description := description.getD read.description
    content := content.getD read.content, updatedAt := now, version := before.version + 1 }

/-- **The template that the client makes of a response** is the one that the server holds then. -/
theorem Orderly.answered {n : Nat} {b : Backend} (h : Orderly n b) (server : Server) {v : Visit}
    (hFair : v.isFair = true) (hMany : n + 1 < Word.values64) (hAsks : v.request.AsksTemplate)
    {t : Template} (hAnswered : Client.answered ((server.serve v.env v.request).run b).1 = .ok t) :
    ∃ c, v.request.call? v.env = some c ∧
      c.effect ⟨v.env.now, v.env.now⟩ b.events = (.ok t, (server.visit b v).events) ∧
      (server.visit b v).Holds t ∧ Keeps t.content ∧ t.version ≤ n + 1 := by
  have hSuccess := Client.isSuccess_of_answered hAnswered
  obtain ⟨c, held, hCall, hEffect, hShows, hHolds, hKeeps, hVersion⟩ :=
    h.serve_asks server hFair hSuccess hAsks
  obtain ⟨hOnly, -⟩ := Client.answered_of_shows hSuccess hShows hKeeps.plain.valid
    hKeeps.plain.realFree (Nat.lt_of_le_of_lt hVersion hMany)
  cases hOnly t hAnswered
  exact ⟨c, hCall, hEffect, hHolds, hKeeps, hVersion⟩

/-- A template that the client reads is held, and reading it changes no event. -/
theorem Orderly.answered_get {n : Nat} {b : Backend} (h : Orderly n b) (server : Server)
    (hMany : n + 1 < Word.values64) {env : Surroundings} {address text : String}
    (hRoute : Route.ofPath? (Client.getFrom address).path = some (.template text)) {t : Template}
    (hAnswered :
      Client.answered ((server.serve env (Client.getFrom address)).run b).1 = .ok t) :
    b.Holds t ∧ readPathId text = .ok t.id ∧ Keeps t.content ∧ t.version < Word.values64 ∧
      (server.visit b ⟨env, Client.getFrom address⟩).events = b.events := by
  have hEvents : (server.visit b ⟨env, Client.getFrom address⟩).events = b.events :=
    server.visit_get h.steady (Client.method_getFrom address)
  obtain ⟨c, hCall, hEffect, ⟨a, hReplay, hTemplate⟩, hKeeps, hVersion⟩ :=
    h.answered server (v := ⟨env, Client.getFrom address⟩) (Visit.isFair_of_get rfl) hMany
      (.inr ⟨text, hRoute, .inl rfl⟩) hAnswered
  rw [hEvents] at hReplay
  obtain ⟨-, -, -, hId⟩ := (Call.ends_of_effect hEffect).writes
  refine ⟨⟨a, hReplay, hTemplate⟩, ?_, hKeeps, Nat.lt_of_le_of_lt hVersion hMany, hEvents⟩
  cases Request.comesTo hCall with
  | create hRoute' => cases hRoute.symm.trans hRoute'
  | update hRoute' hPathId hMethod => simp at hMethod
  | archive hRoute' hPathId hMethod => simp at hMethod
  | get hRoute' hPathId =>
    cases hRoute.symm.trans hRoute'
    rw [hId]
    exact hPathId

/-- A change that the client asks for and that is carried out is made on top of the version that it
comes with. -/
theorem Orderly.answered_put {n : Nat} {b : Backend} (h : Orderly n b) (server : Server)
    (hMany : n + 1 < Word.values64) {env : Surroundings} {address text : String}
    (hRoute : Route.ofPath? (Client.getFrom address).path = some (.template text))
    {name description : String} {content : Content} {e : Nat} (hValid : content.IsValid)
    (hFair : content.isFair = true) (hExpected : e < Word.values64) {t : Template}
    (hAnswered : Client.answered ((server.serve env
      (Client.putTo address ⟨name, description, content, some e⟩)).run b).1 = .ok t) :
    ∃ before, b.Holds before ∧ readPathId text = .ok before.id ∧ before.version = e ∧
      (server.visit b ⟨env, Client.putTo address ⟨name, description, content, some e⟩⟩).Holds t ∧
      t = { before with
        name := name, description := description, content := content, updatedAt := env.now
        version := before.version + 1 } := by
  have hFree := (Content.isFair_iff.mp hFair).1
  -- the request may be read as no call at all, but as no other one than the update
  have hMeant := @call?_putTo_eq env address name description content e hValid hFree hExpected
  have hThis : (Visit.mk env
      (Client.putTo address ⟨name, description, content, some e⟩)).isFair = true := by
    rw [Visit.isFair, Visit.content?]
    cases hCall : Request.call? env (Client.putTo address ⟨name, description, content, some e⟩) with
    | none => rfl
    | some c =>
      obtain ⟨-, id, -, -, rfl⟩ := hMeant hCall
      exact hFair
  obtain ⟨c, hCall, hEffect, hHolds, -, -⟩ :=
    h.answered server hThis hMany (.inr ⟨text, hRoute, .inr rfl⟩) hAnswered
  have hKeeps : ∀ other, c.content? = some other → Keeps other := fun _ => Visit.keeps hThis hCall
  obtain ⟨_, id, hRoute', hPathId, rfl⟩ := hMeant hCall
  cases hRoute.symm.trans hRoute'
  obtain ⟨rows, hAgrees⟩ := h.agrees
  obtain ⟨row, hRow, hVersion, rfl⟩ := hAgrees.update_ok (hKeeps content rfl) hEffect
  exact ⟨row.toTemplate id, holds_of_row hAgrees hRow, hPathId, hVersion.symm, hHolds, rfl⟩

-- ---------------------------------------------------------------------------
-- An update that reverts another
-- ---------------------------------------------------------------------------

/-- A call brings no content along but its own. -/
theorem keeps_of_content? {c : Call} {content : Content} (hContent : c.content? = some content)
    (hKeeps : Keeps content) : ∀ other, c.content? = some other → Keeps other :=
  fun _ hOther => Option.some.inj (hContent.symm.trans hOther) ▸ hKeeps

/-- A visit with a call takes storage from one registry to the next. -/
theorem Server.agrees_visit (server : Server) {b : Backend} (hb : b.IsSteady) {rows : Registry}
    (h : Agrees b.events rows) {v : Visit} {c : Call} (hCall : v.request.call? v.env = some c)
    (hKeeps : ∀ content, c.content? = some content → Keeps content) :
    Agrees (server.visit b v).events (rows.step v.env.now c).2 ∧ (server.visit b v).IsSteady := by
  obtain ⟨hEvents, hSteady⟩ := server.visit_events hb v
  rw [Visit.effect, hCall] at hEvents
  rw [hEvents]
  exact ⟨(h.step ⟨v.env.now, v.env.now⟩ hKeeps).2, hSteady⟩

/-- The client makes of a response what the call gives that the request comes down to. -/
theorem answered_of_step (server : Server) {b : Backend} (hb : b.IsSteady) {rows : Registry}
    (h : Agrees b.events rows) {v : Visit} {c : Call} (hCall : v.request.call? v.env = some c)
    (hKeeps : ∀ content, c.content? = some content → Keeps content) (hAsks : v.request.AsksTemplate)
    {t : Template} (hStep : (rows.step v.env.now c).1 = .ok t) (hShown : Keeps t.content)
    (hVersion : t.version < Word.values64) (hDepth : t.content.toJson.depth ≤ readableDepth) :
    Client.answered ((server.serve v.env v.request).run b).1 = .ok t := by
  have hResult : (c.effect ⟨v.env.now, v.env.now⟩ b.events).1 = .ok t := by
    have hAnswer := (h.step ⟨v.env.now, v.env.now⟩ hKeeps).1
    rw [hStep] at hAnswer
    rcases hEffect : (c.effect ⟨v.env.now, v.env.now⟩ b.events).1 with f | t'
    · rw [hEffect] at hAnswer
      cases hAnswer
    · rw [hEffect] at hAnswer
      exact congrArg Except.ok (Except.ok.inj hAnswer)
  have hSuccess : ((server.serve v.env v.request).run b).1.isSuccess = true := by
    rw [Response.isSuccess_iff, (server.served_call (Request.comesTo hCall) b hb).1,
      Server.dressed_status]
    exact (Server.isSuccess_response v.env.now c _).mpr ⟨t, hResult⟩
  obtain ⟨c', t', hCall', hEffect, hShows⟩ := serve_asks server hb hSuccess hAsks
  cases hCall.symm.trans hCall'
  rw [hEffect] at hResult
  cases hResult
  exact (Client.answered_of_shows hSuccess hShows hShown.plain.valid hShown.plain.realFree
    hVersion).2.mpr hDepth

/-- The call that a request to read comes down to. -/
theorem call?_getFrom (env : Surroundings) {address text : String} {id : Uuid}
    (hRoute : Route.ofPath? (Client.getFrom address).path = some (.template text))
    (hId : readPathId text = .ok id) : (Client.getFrom address).call? env = some (.get id) := by
  rw [Request.call?, hRoute]
  simp only [hId, Client.method_getFrom]
  rfl

/-- The call that a request to change comes down to, if its body can be read. -/
theorem call?_putTo (env : Surroundings) {address text : String} {id : Uuid}
    (hRoute : Route.ofPath? (Client.getFrom address).path = some (.template text))
    (hId : readPathId text = .ok id) {name description : String} {content : Content} {e : Nat}
    (hSize : 4 * (UpdateRequest.shape.encode
      (UpdateRequest.toData ⟨name, description, content, some e⟩)).compact.length ≤ bodyLimit)
    (hKeeps : Keeps content) (hExpected : e < Word.values64)
    (hDepth : content.toJson.depth + 1 ≤ Json.nestingLimit) :
    (Client.putTo address ⟨name, description, content, some e⟩).call? env =
      some (.update id name description content (some e)) := by
  have hRead := Request.readBody_written
    (r := Client.putTo address ⟨name, description, content, some e⟩)
    (Request.hasJson_of_headers rfl) (Client.body_putTo address _) hSize
    UpdateRequest.shape_isWellFormed
    (UpdateRequest.holds_toData hKeeps.plain.valid hExpected)
    (UpdateRequest.isRealFree_encode.trans hKeeps.plain.realFree)
    (Nat.le_trans (Nat.le_of_eq UpdateRequest.depth_encode) hDepth)
  rw [Request.call?, Client.path_putTo, hRoute]
  simp only [hId, hRead, Client.method_putTo]
  rfl

/-- Steady storage in which a template has a row. -/
def Backend.HasRow (b : Backend) (id : Uuid) (row : Row) : Prop :=
  b.IsSteady ∧ ∃ rows, Service.Agrees b.events rows ∧ rows id = some row

/-- A template that has been created in empty storage has a row. -/
theorem hasRow_created (server : Server) {v : Visit} {id : Uuid} {name description : String}
    {content : Content} (hName : Aggregate.isBlankName name = false) (hKeeps : Keeps content)
    (hCall : v.request.call? v.env = some (.create id name description content)) :
    (server.visit .empty v).HasRow id (.new v.env.now name description content) := by
  obtain ⟨hAgrees, hSteady⟩ := server.agrees_visit (b := .empty) (fun _ => rfl)
    Service.agrees_empty hCall (keeps_of_content? rfl hKeeps)
  rw [Registry.step_create _ hName _ _ rfl] at hAgrees
  exact ⟨hSteady, _, hAgrees, Registry.store_self _ _ _⟩

section

variable {b : Backend} {id : Uuid} {row : Row}

/-- It has the same row after it has been read. -/
theorem Backend.HasRow.read (h : b.HasRow id row) (server : Server) (env : Surroundings)
    {address text : String}
    (hRoute : Route.ofPath? (Client.getFrom address).path = some (.template text))
    (hId : readPathId text = .ok id) :
    (server.visit b ⟨env, Client.getFrom address⟩).HasRow id row := by
  obtain ⟨hSteady, rows, hAgrees, hRow⟩ := h
  obtain ⟨hAgrees', hSteady'⟩ := server.agrees_visit hSteady hAgrees
    (v := ⟨env, Client.getFrom address⟩) (call?_getFrom env hRoute hId) fun _ h => nomatch h
  rw [Registry.step_get _ hRow] at hAgrees'
  exact ⟨hSteady', rows, hAgrees', hRow⟩

/-- It has another one after it has been changed. -/
theorem Backend.HasRow.update (h : b.HasRow id row) (server : Server) {v : Visit}
    {name description : String} {content : Content} {expected : Option Nat}
    (hName : Aggregate.isBlankName name = false) (hKeeps : Keeps content)
    (hExpected : expected.getD row.version = row.version)
    (hCall : v.request.call? v.env = some (.update id name description content expected)) :
    (server.visit b v).HasRow id (row.update v.env.now name description content) := by
  obtain ⟨hSteady, rows, hAgrees, hRow⟩ := h
  obtain ⟨hAgrees', hSteady'⟩ := server.agrees_visit hSteady hAgrees hCall
    (keeps_of_content? rfl hKeeps)
  rw [Registry.step_update _ hName _ _ hRow hExpected] at hAgrees'
  exact ⟨hSteady', _, hAgrees', Registry.store_self _ _ _⟩

end

/-- **A name is given**, if the version that was expected, or else the one that was read, is that of
the row when the client asks for the change. What was read may have changed by then. -/
theorem gives_of_hasRow (server : Server) (files : String → Except String String)
    (first second : Turn) (expected : Option Nat) {base address text name : String}
    {id named : Uuid} {row row' : Row}
    (hAddress : Client.Address.destination (base ++ Client.templatePath named) = .ok address)
    (hRoute : Route.ofPath? (Client.getFrom address).path = some (.template text))
    (hId : readPathId text = .ok id) (hName : Aggregate.isBlankName name = false)
    (hRead : (server.visitAll .empty first.others).HasRow id row)
    (hWrite : (server.visitAll (server.visit (server.visitAll .empty first.others)
      ⟨first.env, Client.getFrom address⟩) second.others).HasRow id row')
    (hKeeps : Keeps row.content) (hDepth : row.content.toJson.depth ≤ readableDepth)
    (hExpected : expected.getD row.version = row'.version)
    (hVersion : row.version < Word.values64) (hVersion' : row'.version + 1 < Word.values64)
    (hMine : (Client.putTo address ⟨name, row.description, row.content,
        some row'.version⟩).call? second.env =
      some (.update id name row.description row.content (some row'.version))) :
    ∃ after, Gives (sharedWorld server files)
      (performUpdate base named (some name) none none expected) (.empty, [first, second])
      ((row'.update second.env.now name row.description row.content).toTemplate id)
      (after, []) := by
  obtain ⟨hSteady, rows, hAgrees, hRow⟩ := hRead
  obtain ⟨hSteady', rows', hAgrees', hRow'⟩ := hWrite
  have hGet := answered_of_step server hSteady hAgrees
    (v := ⟨first.env, Client.getFrom address⟩) (call?_getFrom _ hRoute hId)
    (fun _ h => nomatch h) (.inr ⟨text, hRoute, .inl rfl⟩)
    (congrArg Prod.fst (Registry.step_get _ hRow)) hKeeps hVersion hDepth
  rw [← hExpected] at hMine
  have hPut := answered_of_step server hSteady' hAgrees' (v := ⟨second.env, Client.putTo address
      ⟨name, row.description, row.content, some (expected.getD row.version)⟩⟩) hMine
    (keeps_of_content? rfl hKeeps) (.inr ⟨text, hRoute, .inr rfl⟩)
    (congrArg Prod.fst (Registry.step_update _ hName _ _ hRow' hExpected)) hKeeps hVersion' hDepth
  exact ⟨_, Client.gives_performUpdate.mpr
    ⟨address, row.toTemplate id, hAddress, hGet, rfl, hPut, rfl⟩⟩

section

variable (server : Server) (files : String → Except String String) {creation change : Visit}
  {first second : Surroundings} {base address text : String} {id named : Uuid} {content : Content}

/-- **An update can revert another.** A template is created and the client reads it; somebody else
describes it; then the client, which was told to expect the version that this makes, gives it a
name. The update is carried out, and the description is gone. -/
theorem gives_reverted
    (hAddress : Client.Address.destination (base ++ Client.templatePath named) = .ok address)
    (hRoute : Route.ofPath? (Client.getFrom address).path = some (.template text))
    (hId : readPathId text = .ok id) (hKeeps : Keeps content)
    (hDepth : content.toJson.depth ≤ readableDepth)
    (hCreation : creation.request.call? creation.env = some (.create id "a" "" content))
    (hChange : change.request.call? change.env = some (.update id "a" "b" content (some 1)))
    (hMine : (Client.putTo address ⟨"c", "", content, some 2⟩).call? second =
      some (.update id "c" "" content (some 2))) :
    let atRead := server.visitAll .empty [creation]
    let atWrite := server.visitAll (server.visit atRead ⟨first, Client.getFrom address⟩) [change]
    ∃ t after, t.id = id ∧ t.description = "" ∧
      Gives (sharedWorld server files) (performUpdate base named (some "c") none none (some 2))
        (.empty, [⟨[creation], first⟩, ⟨[change], second⟩]) t (after, []) ∧
      ∃ row : Row, row.description = "b" ∧ atWrite.Holds (row.toTemplate id) := by
  intro atRead atWrite
  have hName : Aggregate.isBlankName "a" = false := by decide
  have hRead : atRead.HasRow id _ := hasRow_created server hName hKeeps hCreation
  have hWrite : atWrite.HasRow id _ :=
    (hRead.read server first hRoute hId).update server hName hKeeps rfl hChange
  obtain ⟨after, hGives⟩ := gives_of_hasRow server files ⟨[creation], first⟩ ⟨[change], second⟩
    (some 2) hAddress hRoute hId (by decide) hRead hWrite hKeeps hDepth rfl
    (by decide : 1 < Word.values64) (by decide : 3 < Word.values64) hMine
  obtain ⟨-, rows, hAgrees, hRow⟩ := hWrite
  exact ⟨_, after, rfl, rfl, hGives, _, rfl, holds_of_row hAgrees hRow⟩

/-- If nobody gets in the way, the template that is changed is the one that was read. -/
theorem gives_undisturbed
    (hAddress : Client.Address.destination (base ++ Client.templatePath named) = .ok address)
    (hRoute : Route.ofPath? (Client.getFrom address).path = some (.template text))
    (hId : readPathId text = .ok id) (hKeeps : Keeps content)
    (hDepth : content.toJson.depth ≤ readableDepth)
    (hCreation : creation.request.call? creation.env = some (.create id "a" "" content))
    (hMine : (Client.putTo address ⟨"c", "", content, some 1⟩).call? second =
      some (.update id "c" "" content (some 1))) :
    ∃ t after, Gives (sharedWorld server files)
      (performUpdate base named (some "c") none none none)
      (.empty, [⟨[creation], first⟩, ⟨[], second⟩]) t (after, []) := by
  have hRead := hasRow_created server (by decide) hKeeps hCreation
  obtain ⟨after, hGives⟩ := gives_of_hasRow server files ⟨[creation], first⟩ ⟨[], second⟩ none
    hAddress hRoute hId (by decide) hRead (hRead.read server first hRoute hId) hKeeps hDepth rfl
    (by decide : 1 < Word.values64) (by decide : 2 < Word.values64) hMine
  exact ⟨_, after, hGives⟩

end

/-- A visit with a call whose content is kept is fair. -/
theorem Visit.isFair_of_call {v : Visit} {c : Call} (hCall : v.request.call? v.env = some c)
    (hKeeps : ∀ content, c.content? = some content → Keeps content) : v.isFair = true := by
  rw [isFair, content?, hCall, Option.bind_some]
  cases hContent : c.content? with
  | none => rfl
  | some content =>
    have hKept := hKeeps content hContent
    exact Content.isFair_iff.mpr ⟨hKept.plain.realFree, hKept.fits⟩

/-- The address of the template that is reverted. -/
def revertedAddress : String := "http://a/api/templates/00000000-0000-0000-0000-000000000000"

/-- A visit that describes the template. -/
def descriptionVisit : Visit :=
  ⟨Server.bareSurroundings default,
    Client.putTo revertedAddress ⟨"a", "b", nestedContent 0, some 1⟩⟩

/-- What the first request of the update meets: the template has been created. -/
def readTurn : Turn := ⟨[nestedVisit 0], Server.bareSurroundings default⟩

/-- What the second request of the update meets: the template has been described. -/
def writeTurn : Turn := ⟨[descriptionVisit], Server.bareSurroundings default⟩

/-- What it meets if nobody describes the template. -/
def quietTurn : Turn := ⟨[], Server.bareSurroundings default⟩

/-- Files of which none can be read. -/
def noFiles : String → Except String String := fun _ => .error "no such file"

theorem keeps_nestedContent_zero : Keeps (nestedContent 0) :=
  ⟨⟨by decide, by decide, by decide⟩, by decide +kernel⟩

theorem destination_revertedAddress :
    Client.Address.destination ("http://a" ++ Client.templatePath default) = .ok revertedAddress :=
  toOption_eq_some.mp (by decide +kernel)

theorem ofPath?_revertedAddress : Route.ofPath? (Client.getFrom revertedAddress).path =
    some (.template "00000000-0000-0000-0000-000000000000") := by
  decide +kernel

theorem readPathId_default : readPathId "00000000-0000-0000-0000-000000000000" = .ok default :=
  toOption_eq_some.mp (by decide +kernel)

theorem call?_nestedVisit_zero : (nestedVisit 0).request.call? (nestedVisit 0).env =
    some (.create default "a" "" (nestedContent 0)) :=
  call?_nestedVisit (by decide +kernel) (by decide)

/-- What the other client asks for: a description of its own, on top of the first version. -/
theorem call?_descriptionVisit : descriptionVisit.request.call? descriptionVisit.env =
    some (.update default "a" "b" (nestedContent 0) (some 1)) :=
  call?_putTo _ ofPath?_revertedAddress readPathId_default (by decide +kernel)
    keeps_nestedContent_zero (by decide) (by decide)

/-- What the command asks for, whichever version is given: the new name, with the description that
it has read. -/
theorem call?_name (env : Surroundings) :
    ∀ version ∈ [1, 2], (Client.putTo revertedAddress
        ⟨"c", "", nestedContent 0, some version⟩).call? env =
      some (.update default "c" "" (nestedContent 0) (some version)) := by
  have hSize : ∀ version ∈ [1, 2], 4 * (UpdateRequest.shape.encode (UpdateRequest.toData
      ⟨"c", "", nestedContent 0, some version⟩)).compact.length ≤ bodyLimit := by
    decide +kernel
  have hSmall : ∀ version ∈ [1, 2], version < Word.values64 := by decide
  intro version hVersion
  exact call?_putTo env ofPath?_revertedAddress readPathId_default (hSize version hVersion)
    keeps_nestedContent_zero (hSmall version hVersion) (by decide)

/-- Nobody in these turns asks for more than the service takes. -/
theorem isFair_turns : ∀ v ∈ readTurn.others ++ writeTurn.others, v.isFair = true := by
  have hFirst := Visit.isFair_of_call call?_nestedVisit_zero
    (keeps_of_content? rfl keeps_nestedContent_zero)
  have hSecond := Visit.isFair_of_call call?_descriptionVisit
    (keeps_of_content? rfl keeps_nestedContent_zero)
  exact List.forall_mem_cons.mpr ⟨hFirst, List.forall_mem_singleton.mpr hSecond⟩

theorem gives_reverted_turns :
    let atRead := Server.visitAll ⟨[]⟩ .empty readTurn.others
    let atWrite := Server.visitAll ⟨[]⟩
      (Server.visit ⟨[]⟩ atRead ⟨readTurn.env, Client.getFrom revertedAddress⟩) writeTurn.others
    ∃ t after, t.id = default ∧ t.description = "" ∧
      Gives (sharedWorld ⟨[]⟩ noFiles)
        (performUpdate "http://a" default (some "c") none none (some 2))
        (.empty, [readTurn, writeTurn]) t (after, []) ∧
      ∃ row : Row, row.description = "b" ∧ atWrite.Holds (row.toTemplate default) :=
  gives_reverted ⟨[]⟩ noFiles destination_revertedAddress ofPath?_revertedAddress readPathId_default
    keeps_nestedContent_zero (by decide) call?_nestedVisit_zero call?_descriptionVisit
    (call?_name _ _ (by decide))

theorem gives_undisturbed_turns :
    ∃ t after, Gives (sharedWorld ⟨[]⟩ noFiles)
      (performUpdate "http://a" default (some "c") none none none)
      (.empty, [readTurn, quietTurn]) t (after, []) :=
  gives_undisturbed ⟨[]⟩ noFiles destination_revertedAddress ofPath?_revertedAddress
    readPathId_default keeps_nestedContent_zero (by decide) call?_nestedVisit_zero
    (call?_name _ _ (by decide))

-- ---------------------------------------------------------------------------
-- What an update does
-- ---------------------------------------------------------------------------

/-- **What an update does**, with any visits of other clients before it reads the template and
before it asks for the change. The change is taken on top of the template as it is held then, whose
version is the one that was expected, or else the one that was read. What was not given is taken
from the template that was read. That is the template as it is held then, unless the version that
was expected is a later one. -/
theorem update_of_gives (server : Server) {files : String → Except String String}
    {base : String} {id : Uuid} {name description content : Option String} {expected : Option Nat}
    {first second : Turn} (hFair : ∀ v ∈ first.others ++ second.others, v.isFair = true)
    (hMany : first.others.length + second.others.length + 2 < Word.values64)
    (hFile : ∀ given, contentOf files content = some given → given.isFair = true)
    (hExpected : ∀ e, expected = some e → e < Word.values64)
    {t : Template} {after : Backend} {turns : List Turn}
    (hGives : Gives (sharedWorld server files)
      (performUpdate base id name description content expected) (.empty, [first, second]) t
      (after, turns)) :
    ∃ address read before,
      let atRead := server.visitAll .empty first.others
      let atWrite :=
        server.visitAll (server.visit atRead ⟨first.env, Client.getFrom address⟩) second.others
      Client.Address.destination (base ++ Client.templatePath id) = .ok address ∧
        atRead.Holds read ∧ atWrite.Holds before ∧ after.Holds t ∧
        (contentOf files content).isSome = content.isSome ∧
        t = before.overwritten read second.env.now name description (contentOf files content) ∧
        before.id = read.id ∧ before.version = expected.getD read.version ∧
        ((∀ e, expected = some e → e ≤ read.version) → read = before) := by
  obtain ⟨address, read, hAddress, hRead, hGiven, hAnswered, hAfter⟩ :=
    Client.gives_performUpdate.mp hGives
  rw [Prod.mk.injEq] at hAfter
  obtain ⟨rfl, -⟩ := hAfter
  -- both requests go to the template that the address names
  obtain ⟨text, hRoute⟩ := Server.route_of_put (r := Client.putTo address _) rfl
    (Client.isSuccess_of_answered hAnswered)
  rw [Client.path_putTo] at hRoute
  have hAtRead : Orderly first.others.length (server.visitAll .empty first.others) := by
    have h := orderly_empty.visitAll server fun v hv => hFair v (List.mem_append_left _ hv)
    rwa [Nat.zero_add] at h
  obtain ⟨hRead, hReadId, hReadKeeps, hReadVersion, hEvents⟩ :=
    hAtRead.answered_get server (by omega) hRoute hRead
  have hAtWrite := (hAtRead.visit server (v := ⟨first.env, Client.getFrom address⟩)
    (Visit.isFair_of_get rfl)).visitAll server fun v hv => hFair v (List.mem_append_right _ hv)
  have hFilled : ((contentOf files content).getD read.content).IsValid ∧
      ((contentOf files content).getD read.content).isFair = true := by
    cases hFrom : contentOf files content with
    | none =>
      exact ⟨hReadKeeps.plain.valid,
        Content.isFair_iff.mpr ⟨hReadKeeps.plain.realFree, hReadKeeps.fits⟩⟩
    | some given => exact ⟨Client.isValid_contentOf hFrom, hFile given hFrom⟩
  have hNamed : expected.getD read.version < Word.values64 := by
    cases expected with
    | none => exact hReadVersion
    | some e => exact hExpected e rfl
  obtain ⟨before, hBefore, hBeforeId, hVersion, hHolds, hMade⟩ := hAtWrite.answered_put server
    (by omega) hRoute hFilled.1 hFilled.2 hNamed hAnswered
  have hSameId : before.id = read.id := Except.ok.inj (hBeforeId.symm.trans hReadId)
  -- nothing has been lost from the stream in between
  have hGrown := server.held_visitAll (hAtRead.visit server (v := ⟨first.env,
    Client.getFrom address⟩) (Visit.isFair_of_get rfl)).steady second.others read.id
  rw [hEvents] at hGrown
  obtain ⟨hLater, hUnchanged⟩ := hRead.later hBefore hSameId.symm hGrown
  refine ⟨address, read, before, hAddress, hRead, hBefore, hHolds, hGiven, ?_, hSameId, hVersion,
    fun hOlder => hUnchanged (Nat.le_antisymm hLater ?_)⟩
  · rw [hMade]
    rfl
  · rw [hVersion]
    cases expected with
    | none => exact Nat.le_refl _
    | some e => exact hOlder e rfl

/-- An update that expects version 2 and reads version 1 takes the description from what it read.
One that expects what it reads, with nobody in between, takes it from the template that it
changes. -/
theorem update_of_gives_of_reverted :
    (∀ v ∈ readTurn.others ++ writeTurn.others, v.isFair = true) ∧
      (∃ t after, Gives (sharedWorld ⟨[]⟩ noFiles)
          (performUpdate "http://a" default (some "c") none none (some 2))
          (.empty, [readTurn, writeTurn]) t (after, []) ∧
        ∃ read before : Template, before.version = 2 ∧ after.Holds t ∧
          t = before.overwritten read default (some "c") none none) ∧
      ∃ t after, Gives (sharedWorld ⟨[]⟩ noFiles)
          (performUpdate "http://a" default (some "c") none none none)
          (.empty, [readTurn, quietTurn]) t (after, []) ∧
        ∃ before : Template, after.Holds t ∧
          t = before.overwritten before default (some "c") none none := by
  have hFair := isFair_turns
  have hFairFirst : ∀ v ∈ readTurn.others ++ quietTurn.others, v.isFair = true := by
    rw [quietTurn, List.append_nil]
    exact fun v hv => hFair v (List.mem_append_left _ hv)
  have hMany : readTurn.others.length + writeTurn.others.length + 2 < Word.values64 := by decide
  have hFew : readTurn.others.length + quietTurn.others.length + 2 < Word.values64 := by decide
  have hNow : writeTurn.env.now = default := rfl
  have hQuietNow : quietTurn.env.now = default := rfl
  obtain ⟨t, after, -, -, hGives, -⟩ := gives_reverted_turns
  obtain ⟨t', after', hGives'⟩ := gives_undisturbed_turns
  generalize readTurn = first at *
  generalize writeTurn = second at *
  generalize quietTurn = quiet at *
  have hFile : ∀ given, contentOf noFiles none = some given → given.isFair = true :=
    fun _ h => nomatch h
  have hExpected : ∀ e, some 2 = some e → e < Word.values64 := by
    rintro _ ⟨⟩
    decide
  have hNone : ∀ e, (none : Option Nat) = some e → e < Word.values64 := nofun
  obtain ⟨_, read, before, -, -, -, hHolds, -, hMade, -, hVersion, -⟩ :=
    update_of_gives ⟨[]⟩ hFair hMany hFile hExpected hGives
  obtain ⟨_, read', before', -, -, -, hHolds', -, hMade', -, -, hSame⟩ :=
    update_of_gives ⟨[]⟩ hFairFirst hFew hFile hNone hGives'
  rw [hNow] at hMade
  rw [hQuietNow, hSame nofun] at hMade'
  exact ⟨hFair, ⟨t, after, hGives, read, before, hVersion, hHolds, hMade⟩,
    t', after', hGives', before', hHolds', hMade'⟩

/-- What was not given does not always stay as it was: here the description goes. -/
theorem not_update_keeps_omitted :
    ¬∀ (server : Server) (files : String → Except String String) (base : String) (id : Uuid)
      (name description content : Option String) (expected : Option Nat) (first second : Turn)
      (t : Template) (after : Backend) (turns : List Turn),
      (∀ v ∈ first.others ++ second.others, v.isFair = true) →
      (∀ e, expected = some e → e < Word.values64) →
      Gives (sharedWorld server files) (performUpdate base id name description content expected)
        (.empty, [first, second]) t (after, turns) →
      ∃ address before,
        let atRead := server.visitAll .empty first.others
        let atWrite :=
          server.visitAll (server.visit atRead ⟨first.env, Client.getFrom address⟩) second.others
        Client.Address.destination (base ++ Client.templatePath id) = .ok address ∧
          atWrite.Holds before ∧
          t = before.overwritten before second.env.now name description
            (contentOf files content) := by
  intro h
  have hFair := isFair_turns
  have hAddress := destination_revertedAddress
  obtain ⟨t, after, hId, hDescription, hGives, row, hTheirs, hRow⟩ := gives_reverted_turns
  generalize readTurn = first at *
  generalize writeTurn = second at *
  generalize revertedAddress = address at *
  have hExpected : ∀ e, some 2 = some e → e < Word.values64 := by
    rintro _ ⟨⟩
    decide
  obtain ⟨address', before, hAddress', hBefore, hMade⟩ :=
    h _ _ _ _ _ _ _ _ _ _ _ _ _ hFair hExpected hGives
  cases hAddress.symm.trans hAddress'
  rw [hMade] at hId hDescription
  have hSame : before = row.toTemplate default := hBefore.eq_of_held hRow hId rfl
  have hKept : before.description = "b" := hSame ▸ hTheirs
  exact absurd (hKept.symm.trans hDescription) (by decide)

end Galley
