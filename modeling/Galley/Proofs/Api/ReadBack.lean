import Galley.Client.Call
import Galley.Proofs.Api.Visit

/-!
# Templates read back by the client

The server answers with the template that it holds, and the client reads it back. Both sides read
with the same reader, which goes only so deep. The content of a template stands one level deep in
the body of a request and two levels deep in the body of a response, so there is content that the
server takes and the client cannot read: what the server takes is nested at most 126 deep, and what
the client reads at most 125 (`readableDepth`).

Main results:

* `answered_of_shows` — a response that shows a template is read as that template or not at all.
* `read_back` — after any visits, templates are read back exactly if they are nested no deeper.
-/

namespace Galley

open Service (Call Clock Keeps Agrees)
open Client (checked readAnswer Complaint)

/-- How deep the content of a template can be nested that the client reads in a response. -/
def readableDepth : Nat := Json.nestingLimit - 2

/-- The template that the client makes of a response. -/
def Client.answered (response : Response) : Except Complaint Template :=
  (checked response >>= readAnswer TemplateResponse.shape).map TemplateResponse.ofData

-- ---------------------------------------------------------------------------
-- Responses that show a template
-- ---------------------------------------------------------------------------

namespace TemplateResponse

theorem shape_isWellFormed : shape.isWellFormed = true := by decide

theorem encode_toData (t : Template) :
    shape.encode (toData t) = .object [("template", .object [
      ("id", .string t.id.toText), ("name", .string t.name), ("description", .string t.description),
      ("content", t.content.toJson), ("archived", .bool t.archived),
      ("createdAt", .string (Time.print t.createdAt)),
      ("updatedAt", .string (Time.print t.updatedAt)), ("version", .nat t.version)])] :=
  rfl

/-- A template response is two levels deeper than its content. -/
theorem depth_encode (t : Template) :
    (shape.encode (toData t)).depth = t.content.toJson.depth + 2 := by
  rw [encode_toData]
  simp only [Json.depth, Json.depthOfMembers, Json.nat]
  omega

theorem isRealFree_encode (t : Template) :
    (shape.encode (toData t)).isRealFree = t.content.toJson.isRealFree := by
  rw [encode_toData]
  simp only [Json.isRealFree, Json.haveRealFree, Json.nat, Bool.true_and, Bool.and_true]

theorem holds_toData {t : Template} (hContent : t.content.IsValid)
    (hVersion : t.version < Word.values64) : shape.Holds (toData t) :=
  ⟨⟨trivial, trivial, trivial, Content.holds_toData hContent, trivial, trivial, trivial, hVersion,
    trivial⟩, trivial⟩

theorem ofData_toData (t : Template) : ofData (toData t) = t := by
  rfl

/-- A template that the client's reader may give. -/
theorem depth_of_admits {t : Template} (h : shape.Admits Json.nestingLimit (toData t)) :
    t.content.toJson.depth ≤ readableDepth := by
  obtain ⟨inner, hLevels, ⟨inside, hInner, -, -, -, hContent, -⟩, -⟩ := h
  cases hLevels
  cases hInner
  exact (Content.of_admits hContent).2

end TemplateResponse

/-- **A response that shows a template** is read as that template or not at all, and it is read
exactly if the content is not nested too deeply. -/
theorem Client.answered_of_shows {response : Response} {t : Template}
    (hSuccess : response.isSuccess = true) (hShows : response.Shows t)
    (hValid : t.content.IsValid) (hRealFree : t.content.toJson.isRealFree = true)
    (hVersion : t.version < Word.values64) :
    (∀ other, answered response = .ok other → other = t) ∧
      (answered response = .ok t ↔ t.content.toJson.depth ≤ readableDepth) := by
  have hHolds := TemplateResponse.holds_toData hValid hVersion
  have hFree : (TemplateResponse.shape.encode (TemplateResponse.toData t)).isRealFree = true := by
    rw [TemplateResponse.isRealFree_encode]
    exact hRealFree
  have hText : response.payload.toText.toList =
      Json.written .tight 0 (TemplateResponse.shape.encode (TemplateResponse.toData t)) ++ [] := by
    rw [hShows, Payload.toText, Json.toList_toCompact, List.append_nil]
  have hNoBlanks : ∀ c ∈ ([] : List Char), Json.isBlank c = true :=
    fun _ hc => absurd hc List.not_mem_nil
  have hAnswered : answered response =
      (readAnswer TemplateResponse.shape response).map TemplateResponse.ofData := by
    rw [answered, checked, if_pos hSuccess]
    rfl
  -- what is read is the template, whose content is not nested too deeply then
  have hRead : ∀ other, answered response = .ok other →
      other = t ∧ t.content.toJson.depth ≤ readableDepth := by
    intro other hOther
    rw [hAnswered, readAnswer] at hOther
    obtain ⟨data, hData, rfl⟩ := map_eq_ok.mp hOther
    split at hData
    · next hParse =>
      cases hData
      obtain ⟨rfl, hAdmits⟩ := Json.Shape.eq_of_parse_written .tight 0
        TemplateResponse.shape_isWellFormed hHolds hFree hText hNoBlanks hParse
      exact ⟨TemplateResponse.ofData_toData t, TemplateResponse.depth_of_admits hAdmits⟩
    · cases hData
  refine ⟨fun other hOther => (hRead other hOther).1, fun h => (hRead t h).2, fun hDepth => ?_⟩
  have hShallow : (TemplateResponse.shape.encode (TemplateResponse.toData t)).depth ≤
      Json.nestingLimit := by
    rw [TemplateResponse.depth_encode]
    exact Nat.add_le_of_le_sub (by decide) hDepth
  have hParse := Json.Shape.parse_written .tight 0 TemplateResponse.shape_isWellFormed hHolds
    hFree hShallow hText hNoBlanks
  rw [hAnswered, readAnswer]
  simp only [hParse]
  exact congrArg Except.ok (TemplateResponse.ofData_toData t)

-- ---------------------------------------------------------------------------
-- Templates after visits
-- ---------------------------------------------------------------------------

/-- What the server holds of a template. -/
def Backend.Holds (b : Backend) (t : Template) : Prop :=
  ∃ a, Aggregate.replay t.id (b.events.held t.id) = .ok a ∧ a.snapshot = .ok t

/-- The template of a call that succeeded is held then, with content that is kept. -/
theorem Orderly.holds {n : Nat} {b : Backend} (h : Orderly n b) {c : Call} {t : Template}
    {clock : Clock} {s : EventStore} (hEffect : c.effect clock s = (.ok t, b.events))
    (hKeeps : ∀ content, c.content? = some content → Keeps content) :
    b.Holds t ∧ Keeps t.content ∧ t.version ≤ n := by
  obtain ⟨a, hReplay, hTemplate⟩ :=
    (Call.ends_of_effect hEffect).replay fun content hc => (hKeeps content hc).plain.valid
  obtain ⟨hSame, hVersion, -, -⟩ := Aggregate.replay_ok hReplay
  have hId : t.id = c.id := (Aggregate.id_of_snapshot hTemplate).trans hSame
  have hShown : t.version = a.version := Aggregate.version_of_snapshot hTemplate
  refine ⟨⟨a, by rwa [hId], hTemplate⟩, ?_, by rw [hShown, hVersion]; exact h.short c.id⟩
  obtain ⟨rows, hAgrees⟩ := h.agrees
  cases hRow : rows c.id with
  | none =>
    rw [(hAgrees.load_none hRow).1] at hReplay
    cases hReplay
    cases hTemplate
  | some row =>
    obtain ⟨-, -, hRowReplay, -, hRowKeeps⟩ := hAgrees.load hRow
    cases hReplay.symm.trans hRowReplay
    cases hTemplate
    exact hRowKeeps

/-- Whether a request asks for a template in return: it creates, reads or changes one. -/
def Request.AsksTemplate (r : Request) : Prop :=
  (r.method = "POST" ∧ Route.ofPath? r.path = some .templates) ∨
    ∃ text, Route.ofPath? r.path = some (.template text) ∧ (r.method = "GET" ∨ r.method = "PUT")

/-- A request that asks for a template and is answered as a success comes down to a call, and the
response shows the template that the call gave. -/
theorem serve_asks (server : Server) {b : Backend} (hb : b.IsSteady) {v : Visit}
    (hSuccess : ((server.serve v.env v.request).run b).1.isSuccess = true)
    (hAsks : v.request.AsksTemplate) :
    ∃ c t, v.request.call? v.env = some c ∧
      c.effect ⟨v.env.now, v.env.now⟩ b.events = (.ok t, (server.visit b v).events) ∧
      ((server.serve v.env v.request).run b).1.Shows t := by
  have hMeant : v.request.IsForCall := by
    rcases hAsks with ⟨hMethod, hRoute⟩ | ⟨text, hRoute, hMethod⟩
    · exact ⟨_, hRoute, hMethod⟩
    · refine ⟨_, hRoute, ?_⟩
      rcases hMethod with h | h <;> rw [h, Route.IsForCall] <;> decide
  have hHead : v.request.method ≠ "HEAD" := by
    rcases hAsks with ⟨h, -⟩ | ⟨-, -, h | h⟩ <;> rw [h] <;> decide
  obtain ⟨c, t, hCall, hEffect, hPayload⟩ := Server.serve_meant hb hMeant hSuccess
  refine ⟨c, t, hCall, hEffect, (hPayload hHead).trans ?_⟩
  cases Request.comesTo hCall with
  | create => rfl
  | update => rfl
  | archive hRoute hId hMethod =>
    rcases hAsks with ⟨h, -⟩ | ⟨-, -, h | h⟩ <;> rw [h] at hMethod <;> simp at hMethod
  | get => rfl

/-- The same on storage in order: the template is held then, with content that is kept. -/
theorem Orderly.serve_asks {n : Nat} {b : Backend} (h : Orderly n b) (server : Server) {v : Visit}
    (hFair : v.isFair = true)
    (hSuccess : ((server.serve v.env v.request).run b).1.isSuccess = true)
    (hAsks : v.request.AsksTemplate) :
    ∃ c t, v.request.call? v.env = some c ∧
      c.effect ⟨v.env.now, v.env.now⟩ b.events = (.ok t, (server.visit b v).events) ∧
      ((server.serve v.env v.request).run b).1.Shows t ∧ (server.visit b v).Holds t ∧
      Keeps t.content ∧ t.version ≤ n + 1 := by
  obtain ⟨c, t, hCall, hEffect, hShows⟩ := Galley.serve_asks server h.steady hSuccess hAsks
  obtain ⟨hHolds, hKeeps, hVersion⟩ :=
    (h.visit server hFair).holds hEffect fun content => v.keeps hFair hCall
  exact ⟨c, t, hCall, hEffect, hShows, hHolds, hKeeps, hVersion⟩

-- ---------------------------------------------------------------------------
-- Nested content
-- ---------------------------------------------------------------------------

/-- Lists, one in the other. -/
def nested : Nat → Json
  | 0 => .null
  | n + 1 => .array [nested n]

theorem isValid_nested (n : Nat) : (nested n).isValid = true := by
  induction n with
  | zero => rfl
  | succ n ih => rw [nested, Json.isValid, Json.areValid, ih]; rfl

theorem isRealFree_nested (n : Nat) : (nested n).isRealFree = true := by
  induction n with
  | zero => rfl
  | succ n ih => rw [nested, Json.isRealFree, Json.areRealFree, ih]; rfl

/-- The list that is nested `n` times has depth `n`. -/
theorem depth_nested (n : Nat) : (nested n).depth = n := by
  induction n with
  | zero => rfl
  | succ n ih => rw [nested, Json.depth, Json.depthOfItems, ih]; simp [Json.depthOfItems]

/-- Content with one component, of nested lists. -/
def nestedContent (n : Nat) : Content := ⟨.standard, [nested n], []⟩

theorem isValid_nestedContent (n : Nat) : (nestedContent n).IsValid :=
  ⟨Json.areValid_iff.mpr fun _ h => by rw [List.mem_singleton.mp h]; exact isValid_nested n, rfl⟩

theorem isRealFree_nestedContent (n : Nat) : (nestedContent n).toJson.isRealFree = true := by
  rw [Content.isRealFree_toJson]
  simp only [nestedContent, Json.areRealFree, isRealFree_nested, Bool.and_true]

/-- Content that holds it is two levels deeper. -/
theorem depth_nestedContent (n : Nat) : (nestedContent n).toJson.depth = n + 2 := by
  rw [Content.depth_toJson]
  simp only [nestedContent, Json.depthOfItems, depth_nested, Nat.max_zero]

/-- A character takes at most four bytes. -/
theorem utf8ByteSize_ofList_le (cs : List Char) :
    (String.ofList cs).utf8ByteSize ≤ 4 * cs.length := by
  have hSize : ∀ cs : List Char, cs.utf8Encode.size ≤ 4 * cs.length := by
    intro cs
    induction cs with
    | nil => simp
    | cons c cs ih =>
      have hChar : c.utf8Size ≤ 4 := c.utf8Size_le_four
      rw [List.utf8Encode_cons, ByteArray.size_append, List.utf8Encode_singleton,
        List.size_toByteArray, String.length_utf8EncodeChar, List.length_cons]
      omega
  exact hSize cs

/-- A body that holds the written form of data is read as the data. -/
theorem Request.readBody_written {r : Request} {shape : Json.Shape} {x : shape.Value}
    (hJson : r.hasJson = true) (hBody : r.body = (shape.encode x).toCompact)
    (hSize : 4 * (shape.encode x).compact.length ≤ bodyLimit) (hWell : shape.isWellFormed = true)
    (hHolds : shape.Holds x) (hFree : (shape.encode x).isRealFree = true)
    (hDepth : (shape.encode x).depth ≤ Json.nestingLimit) : r.readBody shape = .ok x := by
  have hText : r.body.toList = Json.written .tight 0 (shape.encode x) := by
    rw [hBody, Json.toList_toCompact]
  have hRead := shape.read_written .tight (r.body.toList.length + 1) x 0 Json.nestingLimit [] hWell
    hHolds hFree hDepth (by rw [hText]; exact Nat.lt_succ_self _) Json.noNumber_nil
  rw [List.append_nil, ← hText] at hRead
  have hSmall : r.body.utf8ByteSize ≤ bodyLimit := by
    rw [hBody, Json.toCompact]
    exact Nat.le_trans (utf8ByteSize_ofList_le _) hSize
  rw [readBody, hJson, if_neg (by decide), if_neg (Nat.not_lt.mpr hSmall)]
  simp only [hRead]

/-- A body that holds the written form of data is read as the data or not at all. -/
theorem Request.eq_of_readBody_written {r : Request} {shape : Json.Shape} {x y : shape.Value}
    (hBody : r.body = (shape.encode x).toCompact) (hWell : shape.isWellFormed = true)
    (hHolds : shape.Holds x) (hFree : (shape.encode x).isRealFree = true)
    (h : r.readBody shape = .ok y) : y = x := by
  have hText : r.body.toList = Json.written .tight 0 (shape.encode x) ++ [] := by
    rw [hBody, Json.toList_toCompact, List.append_nil]
  obtain ⟨rest, hRead⟩ := readBody_ok h
  exact (Json.Shape.eq_of_read_written .tight 0 hWell hHolds hFree hText (Nat.lt_succ_self _)
    Json.noNumber_nil hRead).1

theorem Request.hasJson_of_headers {r : Request}
    (h : r.headers = [("content-type", "application/json")]) : r.hasJson = true := by
  unfold hasJson text? header?
  rw [h]
  decide +kernel

theorem Server.ofPath?_postRequest (body : String) :
    Route.ofPath? (postRequest body).path = some .templates := by
  unfold Request.path postRequest
  dsimp only
  decide +kernel

/-- A request to create a template with nested content, as JSON. -/
def nestedJson (n : Nat) : Json :=
  CreateRequest.shape.encode (CreateRequest.toData ⟨"a", "", nestedContent n⟩)

/-- A visit that creates a template with nested content. -/
def nestedVisit (n : Nat) : Visit :=
  ⟨Server.bareSurroundings default, Server.postRequest (nestedJson n).toCompact⟩

/-- The template that is created. -/
def nestedTemplate (n : Nat) : Template :=
  ⟨default, "a", "", nestedContent n, false, default, default, 1⟩

theorem CreateRequest.encode_toData (r : CreateRequest) :
    shape.encode r.toData = .object [("name", .string r.name),
      ("description", .string r.description), ("content", r.content.toJson)] :=
  rfl

/-- Nested content is taken, as long as its body is not too large and can be read. -/
theorem call?_nestedVisit {n : Nat} (hSize : 4 * (nestedJson n).compact.length ≤ bodyLimit)
    (hDepth : n + 3 ≤ Json.nestingLimit) :
    (nestedVisit n).request.call? (nestedVisit n).env =
      some (.create default "a" "" (nestedContent n)) := by
  have hJson : (nestedVisit n).request.hasJson = true := Request.hasJson_of_headers rfl
  have hRoute : Route.ofPath? (nestedVisit n).request.path = some .templates :=
    Server.ofPath?_postRequest _
  have hFree : (nestedJson n).isRealFree = true := by
    rw [nestedJson, CreateRequest.encode_toData]
    simp only [Json.isRealFree, Json.haveRealFree, isRealFree_nestedContent, Bool.true_and]
  have hShallow : (nestedJson n).depth ≤ Json.nestingLimit := by
    rw [nestedJson, CreateRequest.encode_toData]
    simp only [Json.depth, Json.depthOfMembers, depth_nestedContent]
    omega
  have hHolds : CreateRequest.shape.Holds (CreateRequest.toData ⟨"a", "", nestedContent n⟩) :=
    ⟨trivial, rfl, trivial, rfl, Content.holds_toData (isValid_nestedContent n), trivial⟩
  have hRead := Request.readBody_written hJson rfl hSize (by decide) hHolds hFree hShallow
  have hPost : (nestedVisit n).request.method = "POST" := rfl
  rw [Request.call?, hRoute]
  simp only
  rw [if_pos hPost, hRead]
  rfl

/-- The template with nested content is created and shown. -/
theorem serve_nestedVisit {n : Nat} (hSize : 4 * (nestedJson n).compact.length ≤ bodyLimit)
    (hDepth : n + 3 ≤ Json.nestingLimit) :
    let response := ((Server.serve ⟨[]⟩ (nestedVisit n).env (nestedVisit n).request).run .empty).1
    response.isSuccess = true ∧ response.Shows (nestedTemplate n) := by
  intro response
  have hCall := call?_nestedVisit hSize hDepth
  obtain ⟨hResponse, -, -⟩ := Server.served_call ⟨[]⟩ (Request.comesTo hCall) .empty fun _ => rfl
  have hResult : ((Call.create default "a" "" (nestedContent n)).effect ⟨default, default⟩
      EventStore.empty).1 = .ok (nestedTemplate n) := rfl
  have hAnswer : ((Call.create default "a" "" (nestedContent n)).answer (nestedVisit n).env
      EventStore.empty).1 = Handler.templateResponse 201 (nestedTemplate n) :=
    congrArg (Call.response default (.create default "a" "" (nestedContent n))) hResult
  have hServed : response =
      Server.dressed ⟨[]⟩ (nestedVisit n).env (nestedVisit n).request
        (Handler.templateResponse 201 (nestedTemplate n)) := by
    exact hResponse.trans
      (congrArg (Server.dressed ⟨[]⟩ (nestedVisit n).env (nestedVisit n).request) hAnswer)
  have hPost : (nestedVisit n).request.method ≠ "HEAD" := (by decide : "POST" ≠ "HEAD")
  rw [hServed]
  refine ⟨?_, ?_⟩
  · rw [Response.isSuccess_iff, Server.dressed_status]
    exact ⟨(by decide : 200 ≤ 201), (by decide : 201 < 300)⟩
  · rw [Response.Shows, Server.dressed_payload _ _ _ hPost]
    rfl

/-- The visit asks for that content, as long as its body is neither too long nor too deep. -/
theorem content?_nestedVisit {n : Nat} (hSize : 4 * (nestedJson n).compact.length ≤ bodyLimit)
    (hDepth : n + 3 ≤ Json.nestingLimit) :
    (nestedVisit n).content? = some (nestedContent n) := by
  rw [Visit.content?, call?_nestedVisit hSize hDepth]
  rfl

theorem asksTemplate_nestedVisit (n : Nat) : (nestedVisit n).request.AsksTemplate :=
  .inl ⟨rfl, Server.ofPath?_postRequest _⟩

-- ---------------------------------------------------------------------------
-- Templates read back
-- ---------------------------------------------------------------------------

/-- **Templates are read back if they are not nested too deeply.** After any visits, a request that
asks for a template and is answered as a success is answered with the template that the server
holds. The client reads that template or none, and it reads it exactly if the content is nested no
deeper than `readableDepth`. -/
theorem read_back (server : Server) {visits : List Visit} {v : Visit}
    (hFair : ∀ w ∈ visits, w.isFair = true) (hThis : v.isFair = true)
    (hMany : visits.length + 1 < Word.values64) :
    let before := server.visitAll .empty visits
    let response := ((server.serve v.env v.request).run before).1
    response.isSuccess = true → v.request.AsksTemplate →
      ∃ t, response.Shows t ∧ (server.visit before v).Holds t ∧
        (∀ other, Client.answered response = .ok other → other = t) ∧
        (Client.answered response = .ok t ↔ t.content.toJson.depth ≤ readableDepth) := by
  intro before response hSuccess hAsks
  have hBefore : Orderly visits.length before := by
    have h := orderly_empty.visitAll server hFair
    rwa [Nat.zero_add] at h
  obtain ⟨c, t, -, -, hShows, hHolds, hKeeps, hVersion⟩ :=
    hBefore.serve_asks server hThis hSuccess hAsks
  obtain ⟨hOnly, hExactly⟩ := Client.answered_of_shows hSuccess hShows hKeeps.plain.valid
    hKeeps.plain.realFree (Nat.lt_of_le_of_lt hVersion hMany)
  exact ⟨t, hShows, hHolds, hOnly, hExactly⟩

/-- Content nested 126 deep is taken in a body that is nested 127 deep, and the response that shows
it is nested too deeply for the client. -/
theorem not_read_back :
    ¬∀ (server : Server) (v : Visit),
      (∀ content, v.content? = some content → content.toJson.isRealFree = true) →
      ((server.serve v.env v.request).run .empty).1.isSuccess = true → v.request.AsksTemplate →
        ∃ t, ((server.serve v.env v.request).run .empty).1.Shows t ∧
          (server.visit .empty v).Holds t ∧
          Client.answered ((server.serve v.env v.request).run .empty).1 = .ok t := by
  intro h
  have hSize : 4 * (nestedJson 124).compact.length ≤ bodyLimit := by decide +kernel
  have hShort : 124 + 3 ≤ Json.nestingLimit := by decide
  have hContent := content?_nestedVisit hSize hShort
  obtain ⟨hSuccess, hShows⟩ := serve_nestedVisit hSize hShort
  have hAsks := asksTemplate_nestedVisit 124
  -- from here on, the text of the request plays no part
  generalize nestedVisit 124 = v at hContent hSuccess hShows hAsks
  have hFree : ∀ content, v.content? = some content → content.toJson.isRealFree = true := by
    intro content hOther
    cases hContent.symm.trans hOther
    exact isRealFree_nestedContent 124
  obtain ⟨t, -, -, hAnswered⟩ := h ⟨[]⟩ v hFree hSuccess hAsks
  obtain ⟨hOnly, hExactly⟩ := Client.answered_of_shows hSuccess hShows (isValid_nestedContent 124)
    (isRealFree_nestedContent 124) (show 1 < Word.values64 by decide)
  have hSame : t = nestedTemplate 124 := hOnly t hAnswered
  have hDepth : (nestedContent 124).toJson.depth ≤ readableDepth := hExactly.mp (hSame ▸ hAnswered)
  rw [depth_nestedContent] at hDepth
  exact absurd hDepth (by decide)

/-- Content nested less deeply comes back. -/
theorem read_back_of_nested :
    (nestedVisit 1).isFair = true ∧
      ∃ t, (Server.visit ⟨[]⟩ .empty (nestedVisit 1)).Holds t ∧
        Client.answered ((Server.serve ⟨[]⟩ (nestedVisit 1).env
          (nestedVisit 1).request).run .empty).1 = .ok t := by
  have hSize : 4 * (nestedJson 1).compact.length ≤ bodyLimit := by decide +kernel
  have hShort : 1 + 3 ≤ Json.nestingLimit := by decide
  have hFair : (nestedVisit 1).isFair = true := by
    rw [Visit.isFair, content?_nestedVisit hSize hShort, Option.all_some, Content.isFair_iff,
      Content.toText, String.toList_ofList]
    exact ⟨isRealFree_nestedContent 1, by decide +kernel⟩
  obtain ⟨hSuccess, hShows⟩ := serve_nestedVisit hSize hShort
  have hAsks := asksTemplate_nestedVisit 1
  generalize nestedVisit 1 = v at hFair hSuccess hShows hAsks ⊢
  have hNone : ∀ w ∈ ([] : List Visit), w.isFair = true :=
    fun _ h => absurd h List.not_mem_nil
  have hMany : ([] : List Visit).length + 1 < Word.values64 := show 1 < Word.values64 by decide
  obtain ⟨t, hShown, hHolds, -, hExactly⟩ := read_back ⟨[]⟩ hNone hFair hMany hSuccess hAsks
  refine ⟨hFair, t, hHolds, hExactly.mpr ?_⟩
  -- the template is told by the response that shows it
  have hSame := congrArg Json.depth (Payload.json.inj (hShown.symm.trans hShows))
  rw [TemplateResponse.depth_encode, TemplateResponse.depth_encode] at hSame
  have hDepth : t.content.toJson.depth = 3 :=
    (Nat.add_right_cancel hSame).trans (depth_nestedContent 1)
  rw [hDepth]
  decide

end Galley
