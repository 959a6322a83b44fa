import Galley.Proofs.Api.Served
import Galley.Proofs.Template.Canonical

/-!
# Visits one after another

Clients visit the server one after another, each with a request. The content that a request brings
along has been read from its body, so it is valid, and nested less deeply than the body. If it also
holds no reals, the server keeps the templates of its visitors exactly: on storage that was empty at
the start, the events agree with a registry of rows after any number of visits.

Main results:

* `Visit.keeps` — the content of a visit is kept as it is.
* `Orderly.visitAll` — the events agree with a registry after any number of visits.
* `Server.held_visitAll` — streams only grow.
-/

namespace Galley

open Service (Call Clock Keeps Registry Agrees Row)

-- ---------------------------------------------------------------------------
-- Content from a body
-- ---------------------------------------------------------------------------

namespace Content

/-- Whether content holds no reals, and its canonical text fits in memory. -/
def isFair (content : Content) : Bool :=
  content.toJson.isRealFree && decide (Text.byteLength content.toText.toList < Word.values64)

/-- Content is fair if it has no reals and fits into memory. -/
theorem isFair_iff {content : Content} : content.isFair = true ↔
    content.toJson.isRealFree = true ∧
      Text.byteLength content.toText.toList < Word.values64 := by
  rw [isFair, Bool.and_eq_true, decide_eq_true_eq]

/-- **Fair content** is kept, if it is valid and not nested too deeply. -/
theorem keeps_of_isFair {content : Content} (h : content.isFair = true) (hValid : content.IsValid)
    (hDepth : content.toJson.depth ≤ Json.nestingLimit) : Keeps content :=
  ⟨⟨hValid, (isFair_iff.mp h).1, hDepth⟩, (isFair_iff.mp h).2⟩

end Content

/-- A body is read as a shape within the nesting limit. -/
theorem Request.readBody_ok {r : Request} {shape : Json.Shape} {data : shape.Value}
    (h : r.readBody shape = .ok data) :
    ∃ rest, shape.read (r.body.toList.length + 1) Json.nestingLimit r.body.toList =
      .ok (data, rest) := by
  rw [readBody] at h
  split at h
  · cases h
  split at h
  · cases h
  simp only at h
  split at h
  · next rest hRead =>
    cases h
    exact ⟨rest, hRead⟩
  · cases h

/-- A body that is read is nested no deeper than the limit. -/
theorem Request.admits_of_readBody {r : Request} {shape : Json.Shape} {data : shape.Value}
    (h : r.readBody shape = .ok data) : shape.Admits Json.nestingLimit data := by
  obtain ⟨rest, hRead⟩ := readBody_ok h
  exact Json.Shape.admits_of_read hRead

-- ---------------------------------------------------------------------------
-- Visits
-- ---------------------------------------------------------------------------

/-- A request and what it meets. -/
structure Visit where
  env : Surroundings
  request : Request

namespace Visit

/-- The content that a visit brings along. -/
def content? (v : Visit) : Option Content := (v.request.call? v.env).bind Call.content?

/-- Whether the content that a visit brings along, if any, is fair. -/
def isFair (v : Visit) : Bool := v.content?.all Content.isFair

/-- The content that a request brings along has been read inside of its body. -/
theorem of_content? {v : Visit} {content : Content} (h : v.content? = some content) :
    content.IsValid ∧ content.toJson.depth + 1 ≤ Json.nestingLimit := by
  obtain ⟨c, hCall, hContent⟩ := Option.bind_eq_some_iff.mp h
  cases Request.comesTo hCall with
  | @create data hRoute hMethod hBody =>
    cases hContent
    obtain ⟨name, description, content, ⟨⟩⟩ := data
    obtain ⟨inner, hLevels, -, -, hAdmits, -⟩ := Request.admits_of_readBody hBody
    cases hLevels
    obtain ⟨hValid, hDepth⟩ := Content.getD_of_admits hAdmits
    exact ⟨hValid, Nat.succ_le_succ hDepth⟩
  | @update _ _ data hRoute hId hMethod hBody =>
    cases hContent
    obtain ⟨name, description, content, expected, ⟨⟩⟩ := data
    obtain ⟨inner, hLevels, -, -, hAdmits, -⟩ := Request.admits_of_readBody hBody
    cases hLevels
    obtain ⟨hValid, hDepth⟩ := Content.getD_of_admits hAdmits
    exact ⟨hValid, Nat.succ_le_succ hDepth⟩
  | archive hRoute hId hMethod => cases hContent
  | get hRoute hId hMethod => cases hContent

/-- **The content of a fair visit** is kept as it is. -/
theorem keeps {v : Visit} (h : v.isFair = true) {c : Call}
    (hCall : v.request.call? v.env = some c) {content : Content}
    (hContent : c.content? = some content) : Keeps content := by
  have hBrings : v.content? = some content := by rw [content?, hCall]; exact hContent
  obtain ⟨hValid, hDepth⟩ := of_content? hBrings
  rw [isFair, hBrings, Option.all_some] at h
  exact Content.keeps_of_isFair h hValid (Nat.le_of_succ_le hDepth)

/-- A visit that only reads brings no content along. -/
theorem content?_of_get {v : Visit} (h : v.request.method = "GET") : v.content? = none := by
  cases hCall : v.request.call? v.env with
  | none => rw [content?, hCall]; rfl
  | some c =>
    rw [content?, hCall]
    cases Request.comesTo hCall with
    | create hRoute hMethod hBody => simp [h] at hMethod
    | update hRoute hId hMethod hBody => simp [h] at hMethod
    | archive hRoute hId hMethod => rfl
    | get hRoute hId hMethod => rfl

/-- To get a template is always fair. -/
theorem isFair_of_get {v : Visit} (h : v.request.method = "GET") : v.isFair = true := by
  rw [isFair, content?_of_get h]
  rfl

/-- What a visit does to the events: what its call does, if it comes down to one. -/
def effect (v : Visit) (s : EventStore) : EventStore :=
  match v.request.call? v.env with
  | none => s
  | some c => (c.effect ⟨v.env.now, v.env.now⟩ s).2

/-- A visit adds at most one record to a stream. -/
theorem held_effect (v : Visit) (s : EventStore) (id : Uuid) :
    (v.effect s).held id = s.held id ∨ ∃ record, (v.effect s).held id = s.held id ++ [record] := by
  rw [effect]
  split
  · exact .inl rfl
  · next c hCall =>
    rcases (Call.effect_ends ⟨v.env.now, v.env.now⟩ c s).held id with hSame | ⟨record, -, -, hNext⟩
    · exact .inl hSame
    · exact .inr ⟨record, hNext⟩

end Visit

/-- Storage after a visit. -/
def Server.visit (server : Server) (b : Backend) (v : Visit) : Backend :=
  ((server.serve v.env v.request).run b).2

/-- Storage after visits that come one after another. -/
def Server.visitAll (server : Server) (b : Backend) (visits : List Visit) : Backend :=
  visits.foldl server.visit b

/-- A visit does to the events of steady storage what its call does. -/
theorem Server.visit_events (server : Server) {b : Backend} (hb : b.IsSteady) (v : Visit) :
    (server.visit b v).events = v.effect b.events ∧ (server.visit b v).IsSteady := by
  rw [Visit.effect]
  cases hCall : v.request.call? v.env with
  | none =>
    obtain ⟨response, hAnswers, -⟩ := server.served_quiet hCall
    exact (hAnswers b hb).2
  | some c => exact (server.served_call (Request.comesTo hCall) b hb).2

/-- A visit that only reads changes no event. -/
theorem Server.visit_get (server : Server) {b : Backend} (hb : b.IsSteady) {v : Visit}
    (h : v.request.method = "GET") : (server.visit b v).events = b.events :=
  serve_quiet hb (.inr (.inl h))

/-- Storage without planned outages whose events agree with a registry, and in which no stream is
longer than so many events. -/
structure Orderly (n : Nat) (b : Backend) : Prop where
  steady : b.IsSteady
  agrees : ∃ rows, Agrees b.events rows
  short : ∀ id, (b.events.held id).length ≤ n

theorem orderly_empty : Orderly 0 .empty :=
  ⟨fun _ => rfl, ⟨.empty, Service.agrees_empty⟩, fun _ => Nat.le_refl _⟩

/-- **A fair visit leaves storage in order.** -/
theorem Orderly.visit {n : Nat} {b : Backend} (h : Orderly n b) (server : Server) {v : Visit}
    (hFair : v.isFair = true) : Orderly (n + 1) (server.visit b v) := by
  obtain ⟨hSteady, ⟨rows, hAgrees⟩, hShort⟩ := h
  obtain ⟨hEvents, hSteady'⟩ := server.visit_events hSteady v
  refine ⟨hSteady', ?_, fun id => ?_⟩
  · rw [hEvents, Visit.effect]
    split
    · exact ⟨rows, hAgrees⟩
    · next c hCall =>
      exact ⟨_, (hAgrees.step ⟨v.env.now, v.env.now⟩ fun content => v.keeps hFair hCall).2⟩
  · rw [hEvents]
    rcases v.held_effect b.events id with hSame | ⟨record, hNext⟩
    · rw [hSame]
      exact Nat.le_succ_of_le (hShort id)
    · rw [hNext, List.length_append]
      exact Nat.succ_le_succ (hShort id)

/-- **The events agree with a registry after any number of visits.** -/
theorem Orderly.visitAll {n : Nat} {b : Backend} (h : Orderly n b) (server : Server)
    {visits : List Visit} (hFair : ∀ v ∈ visits, v.isFair = true) :
    Orderly (n + visits.length) (server.visitAll b visits) := by
  induction visits generalizing n b with
  | nil => exact h
  | cons v visits ih =>
    have hRest := ih (h.visit server (hFair v List.mem_cons_self))
      fun w hw => hFair w (List.mem_cons_of_mem _ hw)
    rwa [List.length_cons, Nat.add_comm visits.length, ← Nat.add_assoc]

/-- **Streams only grow**, whatever the visits bring along. -/
theorem Server.held_visitAll (server : Server) {b : Backend} (hb : b.IsSteady)
    (visits : List Visit) (id : Uuid) :
    b.events.held id <+: (server.visitAll b visits).events.held id := by
  induction visits generalizing b with
  | nil => exact List.prefix_refl _
  | cons v visits ih =>
    obtain ⟨hEvents, hSteady⟩ := server.visit_events hb v
    refine List.IsPrefix.trans ?_ (ih hSteady)
    rw [hEvents]
    rcases v.held_effect b.events id with hSame | ⟨record, hNext⟩
    · exact ⟨[], by rw [List.append_nil, hSame]⟩
    · exact ⟨[record], hNext.symm⟩

end Galley
