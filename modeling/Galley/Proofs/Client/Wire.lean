import Galley.Proofs.Api.Discreet
import Galley.Proofs.Client.Update
import Galley.Proofs.Json.Reading

/-!
# Bodies over the wire

Seven kinds of records go over the wire as bodies. The client writes requests to create, to change
and to preview, and the server reads them; the server writes a template, the list, a history and the
report of a failure, and the client reads them. Each kind has one shape on both sides. A field that
one side leaves out is one that the other side fills in with the very value that was left out, so a
body is read as the value that it was written from.

Two kinds hold a table, the values of a preview and the context of a failure. A table is written in
any order (`BodyKind.Reorders`).

What is opaque in a body may be nested so deeply that the other side does not read it. The report of
a failure at the server has no such part: it is made of a code, texts and numbers. So the client
always reads it, and never has to show a refusal as the text that came.

Main results:

* `BodyKind.isReadAs` — a body is read as the value that it was written from.
* `Request.AsksFor.serve_failed` — a request whose operation fails is answered with the failure.
* `written_bodies_are_read` — both, and what the client says about a failure.
-/

namespace Galley

open Client (checked complaintOf readAnswer)
open Service (Call)

-- ---------------------------------------------------------------------------
-- Shallow values
-- ---------------------------------------------------------------------------

namespace Json

/-- A value without reals that is nested no deeper than so many levels. -/
def IsShallow (levels : Nat) (j : Json) : Prop := j.isRealFree = true ∧ j.depth ≤ levels

variable {levels : Nat}

theorem IsShallow.mono {j : Json} (h : j.IsShallow levels) {more : Nat} (hMore : levels ≤ more) :
    j.IsShallow more :=
  ⟨h.1, Nat.le_trans h.2 hMore⟩

theorem isShallow_bool (b : Bool) : (Json.bool b).IsShallow levels := ⟨rfl, Nat.zero_le levels⟩

theorem isShallow_string (s : String) : (Json.string s).IsShallow levels :=
  ⟨rfl, Nat.zero_le levels⟩

theorem isShallow_nat (n : Nat) : (Json.nat n).IsShallow levels := ⟨rfl, Nat.zero_le levels⟩

/-- An object is one level deeper than its values. -/
theorem isShallow_object {members : List (String × Json)}
    (h : ∀ m ∈ members, m.2.IsShallow levels) : (Json.object members).IsShallow (levels + 1) :=
  ⟨haveRealFree_iff.mpr fun m hm => (h m hm).1,
    Nat.succ_le_succ (depthOfMembers_le_iff.mpr fun m hm => (h m hm).2)⟩

/-- What may be null is as shallow as what it is when it is not. -/
theorem isShallow_nullable {inner : Shape} {x : Option inner.Value}
    (h : ∀ y, x = some y → (inner.encode y).IsShallow levels)
    (hPresent : (Shape.nullable inner).isAbsent x = false) :
    ((Shape.nullable inner).encode x).IsShallow levels := by
  cases x with
  | none => cases hPresent
  | some y => exact h y rfl

section

variable {P : Json → Prop} {name : String} {shape : Shape} {rest : Fields} {xs : rest.Values}

/-- What holds of a field that is written and of the other members holds of all. -/
theorem Fields.forall_encode_required {x : shape.Value}
    (first : shape.isAbsent x = false → P (shape.encode x)) (more : ∀ m ∈ rest.encode xs, P m.2) :
    ∀ m ∈ (Fields.cons name .required shape rest).encode (x, xs), P m.2 := by
  rw [encode]
  split
  · exact more
  · next hPresent =>
    exact List.forall_mem_cons.mpr ⟨first (Bool.eq_false_iff.mpr hPresent), more⟩

/-- A member that may be left out has to be looked at only if it is there. -/
theorem Fields.forall_encode_optional {x : Option shape.Value}
    (first : ∀ y, x = some y → P (shape.encode y)) (more : ∀ m ∈ rest.encode xs, P m.2) :
    ∀ m ∈ (Fields.cons name .optional shape rest).encode (x, xs), P m.2 := by
  cases x with
  | none => exact more
  | some y =>
    rw [encode]
    split
    · exact more
    · exact List.forall_mem_cons.mpr ⟨first y rfl, more⟩

end

theorem isValid_nat {n : Nat} (h : n < Word.values64) : (Json.nat n).isValid = true := by
  show isExact n = true
  rw [isExact, Bool.and_eq_true, decide_eq_true_eq, decide_eq_true_eq]
  omega

end Json

-- ---------------------------------------------------------------------------
-- Kinds of bodies
-- ---------------------------------------------------------------------------

/-- The kinds of records that go over the wire as bodies. -/
inductive BodyKind where
  | create
  | update
  | preview
  | template
  | listing
  | history
  | failure

namespace BodyKind

/-- What a body of a kind says. -/
@[reducible] def Value : BodyKind → Type
  | create => CreateRequest
  | update => UpdateRequest
  | preview => PreviewRequest
  | template => Template
  | listing => List Summary
  | history => HistoryResponse
  | failure => ErrorResponse

/-- The shape that both sides use. -/
@[reducible] def shape : BodyKind → Json.Shape
  | create => CreateRequest.shape
  | update => UpdateRequest.shape
  | preview => PreviewRequest.shape
  | template => TemplateResponse.shape
  | listing => ListResponse.shape
  | history => HistoryResponse.shape
  | failure => ErrorResponse.shape

/-- A value as data of the shape. -/
def toData : (k : BodyKind) → k.Value → k.shape.Value
  | create => CreateRequest.toData
  | update => UpdateRequest.toData
  | preview => PreviewRequest.toData
  | template => TemplateResponse.toData
  | listing => ListResponse.toData
  | history => HistoryResponse.toData
  | failure => ErrorResponse.toData

/-- The value that data of the shape stand for. -/
def ofData : (k : BodyKind) → k.shape.Value → k.Value
  | create => CreateRequest.ofData
  | update => UpdateRequest.ofData
  | preview => PreviewRequest.ofData
  | template => TemplateResponse.ofData
  | listing => ListResponse.ofData
  | history => HistoryResponse.ofData
  | failure => ErrorResponse.ofData

/-- The JSON of a value. -/
def encode (k : BodyKind) (x : k.Value) : Json := k.shape.encode (k.toData x)

/-- Whether a value can be held at all: numbers fit their words, opaque values are valid, and tables
have no name twice. -/
def IsValid : (k : BodyKind) → k.Value → Prop
  | create, r => r.content.IsValid
  | update, r => r.content.IsValid ∧ ∀ e, r.expected = some e → e < Word.values64
  | preview, r => Json.Increasing r.values
  | template, t => t.content.IsValid ∧ t.version < Word.values64
  | listing, _ => True
  | history, r => ∀ e ∈ r.entries, e.version < Word.values64
  | failure, r => ∀ d, r.error.details = some d →
    Json.Increasing d.context ∧ ∀ m ∈ d.context, m.2.isValid = true

/-- A value, and how it may be written: its table in any order. -/
inductive Reorders : (k : BodyKind) → k.Value → k.Value → Prop
  | same (k : BodyKind) (x : k.Value) : Reorders k x x
  | preview (r : PreviewRequest) {shown : Placeholder.Variables} (h : r.values.Perm shown) :
    Reorders preview r { r with values := shown }
  | failure (r : ErrorResponse) {d : Details} {shown : List (String × Json)}
    (hDetails : r.error.details = some d) (h : d.context.Perm shown) :
    Reorders failure r
      { r with error := { r.error with details := some { d with context := shown } } }

/-- A body is read as a value: its text is, the server takes a request with it for that unless the
body is too large, and the client takes a response with it for that. -/
structure IsReadAs (k : BodyKind) (body : Json) (x : k.Value) : Prop where
  text : (k.shape.parse body.toCompact).map k.ofData = .ok x
  request : ∀ r : Request, r.hasJson = true → r.body = body.toCompact →
    (r.readBody k.shape).map k.ofData =
      if bodyLimit < r.body.utf8ByteSize then .error .tooLarge else .ok x
  response : ∀ r : Response, r.payload = .json body → (readAnswer k.shape r).map k.ofData = .ok x

-- ---------------------------------------------------------------------------
-- Data of a body
-- ---------------------------------------------------------------------------

/-- No body has two fields of one name. -/
theorem isWellFormed_shape (k : BodyKind) : k.shape.isWellFormed = true := by
  cases k <;> decide

end BodyKind

theorem CreateRequest.holds_toData {r : CreateRequest} (h : r.content.IsValid) :
    shape.Holds r.toData :=
  ⟨trivial, rfl, trivial, rfl, Content.holds_toData h, trivial⟩

/-- A preview fits its shape if its values are in order. -/
theorem PreviewRequest.holds_toData {r : PreviewRequest} (h : Json.Increasing r.values) :
    shape.Holds r.toData :=
  ⟨trivial, rfl, ⟨h, fun _ _ => trivial⟩, trivial⟩

theorem ListResponse.holds_toData (rows : List Summary) : shape.Holds (toData rows) := by
  refine ⟨fun data hData => ?_, trivial⟩
  obtain ⟨row, -, rfl⟩ := List.mem_map.mp hData
  exact ⟨trivial, trivial, trivial, trivial, trivial, trivial, trivial⟩

theorem ListResponse.ofData_toData (rows : List Summary) : ofData (toData rows) = rows := by
  rw [toData, ofData, List.map_map]
  exact List.map_id rows

/-- A history fits its shape if its versions are words. -/
theorem HistoryResponse.holds_toData {r : HistoryResponse}
    (h : ∀ e ∈ r.entries, e.version < Word.values64) : shape.Holds r.toData := by
  refine ⟨trivial, fun data hData => ?_, trivial⟩
  obtain ⟨e, he, rfl⟩ := List.mem_map.mp hData
  exact ⟨h e he, trivial, trivial, trivial⟩

theorem HistoryResponse.ofData_toData (r : HistoryResponse) : ofData r.toData = r := by
  obtain ⟨id, entries⟩ := r
  rw [toData, ofData, List.map_map]
  exact congrArg (HistoryResponse.mk id) (List.map_id entries)

namespace Details

theorem holds_text (s : Option String) : (Json.Shape.nullable .text).Holds s := by
  cases s <;> trivial

theorem holds_toData {d : Details} (hIncreasing : Json.Increasing d.context)
    (hValid : ∀ m ∈ d.context, m.2.isValid = true) : shape.Holds d.toData := by
  have hRest := And.intro (holds_text d.entityId)
    (And.intro (holds_text d.entityType) (And.intro (holds_text d.suggestedAction) trivial))
  show (Json.Fields.cons "context" .optional _ _).Hold d.toData
  rw [toData]
  -- an empty context is a field without a value
  split
  · exact hRest
  · exact ⟨rfl, ⟨hIncreasing, hValid⟩, hRest⟩

theorem ofData_toData (d : Details) : ofData d.toData = d := by
  obtain ⟨context, entityId, entityType, suggestedAction⟩ := d
  cases context <;> rfl

theorem reorders_toData {d : Details} {shown : List (String × Json)} (h : d.context.Perm shown) :
    shape.Reorders d.toData { d with context := shown }.toData := by
  have hEmpty : d.context.isEmpty = shown.isEmpty := h.isEmpty_eq
  refine .record ?_
  rw [toData, toData, ← hEmpty]
  split
  · exact .absent (.refl _ _)
  · exact .present (.table h) (.refl _ _)

end Details

namespace ErrorResponse

theorem holds_toData {r : ErrorResponse} (h : BodyKind.failure.IsValid r) :
    shape.Holds r.toData := by
  obtain ⟨success, code, number, message, details, timestamp⟩ := r
  refine ⟨trivial, ⟨trivial, trivial, trivial, ?_, trivial, trivial⟩, trivial⟩
  cases details with
  | none => trivial
  | some d => exact Details.holds_toData (h d rfl).1 (h d rfl).2

theorem ofData_toData (r : ErrorResponse) : ofData r.toData = r := by
  obtain ⟨success, code, number, message, details, timestamp⟩ := r
  have hDetails : (details.map Details.toData).map Details.ofData = details := by
    cases details with
    | none => rfl
    | some d => exact congrArg some d.ofData_toData
  show ErrorResponse.mk success ⟨Code.ofData code.toData, number, message,
    (details.map Details.toData).map Details.ofData, timestamp⟩ = _
  rw [hDetails, Code.ofData_toData]

end ErrorResponse

namespace BodyKind

/-- Data that are written like a value and stand for it. -/
theorem exists_data (k : BodyKind) {x : k.Value} (h : k.IsValid x) :
    ∃ data, k.shape.Holds data ∧ k.encode x = k.shape.encode data ∧ k.ofData data = x := by
  cases k with
  | create => exact ⟨_, CreateRequest.holds_toData h, rfl, rfl⟩
  | update =>
    obtain ⟨name, description, content, expected⟩ := x
    cases expected with
    | none =>
      -- no field is written here, so none is read; `toData` has a field without a value
      exact ⟨(name, some description, some content.toData, none, ()),
        ⟨trivial, rfl, trivial, rfl, Content.holds_toData h.1, trivial⟩, rfl, rfl⟩
    | some e => exact ⟨_, UpdateRequest.holds_toData h.1 (h.2 e rfl), rfl, rfl⟩
  | preview => exact ⟨_, PreviewRequest.holds_toData h, rfl, rfl⟩
  | template => exact ⟨_, TemplateResponse.holds_toData h.1 h.2, rfl, rfl⟩
  | listing => exact ⟨_, ListResponse.holds_toData x, rfl, ListResponse.ofData_toData x⟩
  | history => exact ⟨_, HistoryResponse.holds_toData h, rfl, HistoryResponse.ofData_toData x⟩
  | failure => exact ⟨_, ErrorResponse.holds_toData h, rfl, ErrorResponse.ofData_toData x⟩

/-- The same for a value whose table is written in another order. -/
theorem Reorders.exists_data {k : BodyKind} {x shown : k.Value} (h : k.Reorders x shown)
    (hValid : k.IsValid x) :
    ∃ data written, k.shape.Reorders data written ∧ k.shape.Holds data ∧
      k.encode shown = k.shape.encode written ∧ k.ofData data = x := by
  cases h with
  | same k x =>
    obtain ⟨data, hHolds, hEncode, hData⟩ := k.exists_data hValid
    exact ⟨data, data, .same _ data, hHolds, hEncode, hData⟩
  | preview r hPerm =>
    exact ⟨_, _, .record (.required (.same .text _) (.present (.table hPerm) .nil)),
      PreviewRequest.holds_toData hValid, rfl, rfl⟩
  | @failure r d shown hDetails hPerm =>
    obtain ⟨success, code, number, message, details, timestamp⟩ := r
    cases hDetails
    have hError : ErrorInfo.shape.Reorders (ErrorInfo.toData ⟨code, number, message, some d,
        timestamp⟩) (ErrorInfo.toData ⟨code, number, message, some { d with context := shown },
        timestamp⟩) :=
      .record (.required (.same Code.shape _) (.required (.same .word32 _)
        (.required (.same .text _) (.required (.present (Details.reorders_toData hPerm))
          (.required (.same .instant _) .nil)))))
    exact ⟨_, _, .record (.required (.same .flag _) (.required hError .nil)),
      ErrorResponse.holds_toData hValid, rfl, ErrorResponse.ofData_toData _⟩

/-- **A body is read as the value that it was written from.** -/
theorem isReadAs {k : BodyKind} {x shown : k.Value} (hShown : k.Reorders x shown)
    (hValid : k.IsValid x) (hShallow : (k.encode shown).IsShallow Json.nestingLimit) :
    k.IsReadAs (k.encode shown) x := by
  obtain ⟨data, written, hReorders, hHolds, hEncode, hData⟩ := hShown.exists_data hValid
  rw [hEncode] at hShallow ⊢
  obtain ⟨hFree, hDepth⟩ := hShallow
  have hText := Json.toList_toCompact (k.shape.encode written)
  -- nothing stands behind the value in a body
  have hParse : k.shape.parse (k.shape.encode written).toCompact = .ok data :=
    Json.Shape.parse_reordered .tight 0 hReorders k.isWellFormed_shape hHolds hFree hDepth
      (hText.trans (List.append_nil _).symm) fun _ hc => absurd hc List.not_mem_nil
  constructor
  case text => rw [hParse, ← hData]; rfl
  case request =>
    intro r hJson hBody
    rw [← hBody] at hText
    have hRead := Json.Shape.read_reordered .tight (r.body.toList.length + 1) _ hReorders 0
      Json.nestingLimit [] k.isWellFormed_shape hHolds hFree hDepth
      (by rw [hText]; exact Nat.lt_succ_self _) Json.noNumber_nil
    rw [List.append_nil, ← hText] at hRead
    rw [Request.readBody, hJson, if_neg (by decide)]
    split
    · rfl
    · simp only [hRead]
      exact congrArg Except.ok hData
  case response =>
    intro r hPayload
    rw [readAnswer, hPayload, Payload.toText]
    simp only [hParse]
    exact congrArg Except.ok hData

end BodyKind

-- ---------------------------------------------------------------------------
-- Refusals
-- ---------------------------------------------------------------------------

/-- **A refusal that carries a report is told by the report.** -/
theorem Client.checked_report {response : Response} {now : Instant} {report : Report}
    {shown : ErrorResponse}
    (hShown : BodyKind.failure.Reorders (ErrorResponse.ofReport now report) shown)
    (hValid : BodyKind.failure.IsValid (ErrorResponse.ofReport now report))
    (hShallow : shown.toJson.IsShallow Json.nestingLimit)
    (hStatus : response.status = report.code.status)
    (hPayload : response.payload = .json shown.toJson) :
    checked response =
      .error (.refused report.code.status report.code report.message) := by
  have hRefused : ¬response.isSuccess = true :=
    Response.not_isSuccess (hStatus ▸ report.code.status_ge)
  have hRead := (BodyKind.isReadAs hShown hValid hShallow).text
  obtain ⟨data, hParse, hData⟩ := map_eq_ok.mp hRead
  have hData' : ErrorResponse.ofData data = .ofReport now report := hData
  have hParse' : ErrorResponse.shape.parse response.payload.toText = .ok data := by
    rw [hPayload]
    exact hParse
  rw [checked, if_neg hRefused, complaintOf]
  simp only [hParse', hData', hStatus]
  rfl

-- ---------------------------------------------------------------------------
-- Reports of failures
-- ---------------------------------------------------------------------------

/-- Details whose context holds nothing but scalars. -/
structure Details.IsFlat (d : Details) : Prop where
  increasing : Json.Increasing d.context
  scalars : ∀ m ∈ d.context, m.2.isValid = true ∧ m.2.IsShallow 0

theorem Details.isFlat_of_nil {d : Details} (h : d.context = []) : d.IsFlat :=
  ⟨h ▸ List.Pairwise.nil, h ▸ List.forall_mem_nil _⟩

/-- Flat details are two levels deep. -/
theorem Details.IsFlat.isShallow {d : Details} (h : d.IsFlat) : d.toJson.IsShallow 2 := by
  have hText : ∀ s : Option String, ∀ y, s = some y →
      (Json.Shape.text.encode y).IsShallow 1 := fun _ y _ => Json.isShallow_string y
  have hContext : (Json.object (d.context.map fun m => (m.1, m.2))).IsShallow 1 := by
    rw [List.map_id']
    exact Json.isShallow_object fun m hm => (h.scalars m hm).2
  refine Json.isShallow_object (Json.Fields.forall_encode_optional (fun context hSome => ?_)
    (Json.Fields.forall_encode_required (Json.isShallow_nullable (hText _))
      (Json.Fields.forall_encode_required (Json.isShallow_nullable (hText _))
        (Json.Fields.forall_encode_required (Json.isShallow_nullable (hText _))
          (List.forall_mem_nil _)))))
  -- an empty context is not written
  split at hSome
  · cases hSome
  · cases hSome
    exact hContext

/-- The details in what a client is told are those of the report. -/
theorem ErrorInfo.details_ofReport {now : Instant} {report : Report} {d : Details}
    (h : (ofReport now report).details = some d) : d = report.details := by
  rw [ofReport] at h
  dsimp only at h
  split at h
  · cases h
  · exact (Option.some.inj h).symm

/-- An error with flat details is far from the nesting limit. -/
theorem Report.isShallow {report : Report} (h : report.details.IsFlat) (now : Instant) :
    (ErrorResponse.ofReport now report).toJson.IsShallow 4 := by
  have hDetails : ∀ data, (ErrorInfo.ofReport now report).details.map Details.toData = some data →
      (Details.shape.encode data).IsShallow 2 := by
    intro data hData
    obtain ⟨d, hd, rfl⟩ := Option.map_eq_some_iff.mp hData
    rw [ErrorInfo.details_ofReport hd]
    exact h.isShallow
  have hError : (ErrorInfo.shape.encode (ErrorInfo.ofReport now report).toData).IsShallow 3 :=
    Json.isShallow_object
      (Json.Fields.forall_encode_required (fun _ => Json.isShallow_string _)
        (Json.Fields.forall_encode_required (fun _ => Json.isShallow_nat _)
          (Json.Fields.forall_encode_required (fun _ => Json.isShallow_string _)
            (Json.Fields.forall_encode_required (Json.isShallow_nullable hDetails)
              (Json.Fields.forall_encode_required (fun _ => Json.isShallow_string _)
                (List.forall_mem_nil _))))))
  exact Json.isShallow_object
    (Json.Fields.forall_encode_required (fun _ => Json.isShallow_bool _)
      (Json.Fields.forall_encode_required (fun _ => hError) (List.forall_mem_nil _)))

/-- Whether the numbers that a failure tells fit their words. -/
def Failure.Fits : Failure → Prop
  | conflict _ expected actual => expected < Word.values64 ∧ actual < Word.values64
  | _ => True

/-- No failure that fits reports nested details. -/
theorem Failure.isFlat_details {f : Failure} (h : f.Fits) : f.report.details.IsFlat := by
  cases f with
  | emptyBatch id =>
    exact ⟨List.pairwise_singleton _ _,
      List.forall_mem_singleton.mpr ⟨rfl, Json.isShallow_string _⟩⟩
  | conflict id expected actual =>
    have hContext : (conflict id expected actual).report.details.context =
        [("actualVersion", .nat actual), ("expectedVersion", .nat expected)] := rfl
    have hOrder : "actualVersion" < "expectedVersion" := by decide
    constructor
    · rw [hContext]
      exact List.pairwise_pair.mpr hOrder
    · rw [hContext]
      exact List.forall_mem_cons.mpr ⟨⟨Json.isValid_nat h.2, Json.isShallow_nat _⟩,
        List.forall_mem_singleton.mpr ⟨Json.isValid_nat h.1, Json.isShallow_nat _⟩⟩
  | _ => exact Details.isFlat_of_nil rfl

/-- **Every failure** that fits is reported in a valid body. -/
theorem Failure.isValid_ofReport {f : Failure} (h : f.Fits) (now : Instant) :
    BodyKind.failure.IsValid (ErrorResponse.ofReport now f.report) := by
  intro d hDetails
  have hFlat := f.isFlat_details h
  rw [← ErrorInfo.details_ofReport hDetails] at hFlat
  exact ⟨hFlat.increasing, fun m hm => (hFlat.scalars m hm).1⟩

-- ---------------------------------------------------------------------------
-- Operations behind requests
-- ---------------------------------------------------------------------------

/-- What a request to preview does. -/
def PreviewRequest.toOperation (renderer : Renderer) (body : PreviewRequest) :
    Operation (List UInt8) :=
  if body.source.toList.all Text.isBlank then Operation.fail .blankSource
  else Service.toPdf renderer body.source body.values

/-- The operation of the service that a request asks for, if it is not refused outright. -/
inductive Request.AsksFor (env : Surroundings) (r : Request) : {α : Type} → Operation α → Prop
  | call {c : Call} (h : r.ComesTo env c) : AsksFor env r (c.perform ⟨env.now, env.now⟩)
  | history {text : String} {id : Uuid} (hRoute : Route.ofPath? r.path = some (.history text))
      (hMethod : r.method = "GET" ∨ r.method = "HEAD") (hId : readPathId text = .ok id) :
      AsksFor env r (Service.history id)
  | preview {data : PreviewRequest.shape.Value} (hRoute : Route.ofPath? r.path = some .preview)
      (hMethod : r.method = "POST") (hBody : r.readBody PreviewRequest.shape = .ok data) :
      AsksFor env r ((PreviewRequest.ofData data).toOperation env.renderer)

/-- A request that asks for an operation is of a method that its route takes, and its handler makes
the response of the operation. -/
theorem Request.AsksFor.run {env : Surroundings} {r : Request} {α : Type} {op : Operation α}
    (h : r.AsksFor env op) :
    ∃ route answer, Route.ofPath? r.path = some route ∧ r.method ∈ route.methods ∧
      Handler.run env r route = Handler.respond env.now op answer := by
  cases h with
  | call hCall =>
    obtain ⟨route, answer, hRoute, hMethod, hRun, -⟩ := hCall.run
    exact ⟨route, answer, hRoute, hMethod, hRun⟩
  | @history text id hRoute hMethod hId =>
    refine ⟨_, fun entries => .ofJson 200 (HistoryResponse.shape.encode
      (HistoryResponse.toData ⟨id, entries⟩)), hRoute, ?_, ?_⟩
    · rcases hMethod with h | h <;> rw [h, Route.methods] <;> decide
    · rw [Handler.run, Handler.history, hId]
      rfl
  | preview hRoute hMethod hBody =>
    refine ⟨_, Handler.document, hRoute, by rw [hMethod]; decide, ?_⟩
    rw [Handler.run, Handler.preview, hBody]
    rfl

/-- **A request whose operation fails** is answered with the failure, on any storage. -/
theorem Request.AsksFor.serve_failed {env : Surroundings} {r : Request} {α : Type}
    {op : Operation α} (h : r.AsksFor env op) (server : Server) {b : Backend} {f : Failure}
    (hFails : (op.run b).1 = .error f) :
    ((server.serve env r).run b).1 = server.dressed env r (Handler.failureResponse env.now f) := by
  obtain ⟨route, answer, hRoute, hMethod, hRun⟩ := h.run
  have hResponse : ((Handler.run env r route).run b).1 = Handler.failureResponse env.now f := by
    rw [hRun, Handler.run_respond, hFails]
    rfl
  rw [Server.serve, if_neg (Route.ne_options hMethod)]
  simp only [hRoute, Server.serveRoute, if_pos hMethod]
  rw [← hResponse]
  rfl

/-- **What one side writes the other side reads.** A value of each kind of body, its table in any
order, is read as itself, as long as it holds no real number and is nested no deeper than readers
go. A refusal with the report of a failure is told by the client with the status of its code, the
code and the message for clients; so is whatever fails at the server behind a request that is
answered with a body at all. -/
theorem written_bodies_are_read :
    (∀ (k : BodyKind) (x shown : k.Value), k.IsValid x → k.Reorders x shown →
      (k.encode shown).IsShallow Json.nestingLimit →
        k.IsReadAs (k.encode shown) x) ∧
    (∀ (now : Instant) (report : Report) (shown : ErrorResponse) (response : Response),
      BodyKind.failure.IsValid (ErrorResponse.ofReport now report) →
      BodyKind.failure.Reorders (ErrorResponse.ofReport now report) shown →
      shown.toJson.IsShallow Json.nestingLimit →
      response.status = report.code.status → response.payload = .json shown.toJson →
        checked response =
          .error (.refused report.code.status report.code report.message)) ∧
    ∀ (server : Server) (env : Surroundings) (r : Request) (b : Backend) (α : Type)
      (op : Operation α) (f : Failure), r.method ≠ "HEAD" → r.AsksFor env op →
      (op.run b).1 = .error f → f.Fits →
        checked ((server.serve env r).run b).1 =
          .error (.refused f.code.status f.code f.report.message) := by
  refine ⟨fun k x shown hValid hShown => BodyKind.isReadAs hShown hValid,
    fun now report shown response hValid hShown => Client.checked_report hShown hValid, ?_⟩
  intro server env r b α op f hMethod hAsks hFails hFits
  have hShallow := (Report.isShallow (f.isFlat_details hFits) env.now).mono
    (by decide : 4 ≤ Json.nestingLimit)
  rw [hAsks.serve_failed server hFails]
  exact Client.checked_report (.same _ _) (f.isValid_ofReport hFits env.now) hShallow
    (Server.dressed_status server env r _) (Server.dressed_payload server env r hMethod _)

/-- Values that are written in the other order, an update that expects no version, and a template
that is not there. -/
theorem written_bodies_are_read_of_preview :
    let values : PreviewRequest := ⟨"#a #b", [("a", "1"), ("b", "2")]⟩
    let shown : PreviewRequest := ⟨"#a #b", [("b", "2"), ("a", "1")]⟩
    let change : UpdateRequest := ⟨"a", "", .empty, none⟩
    let env := Server.bareSurroundings default
    BodyKind.preview.IsReadAs (BodyKind.preview.encode shown) values ∧
      BodyKind.update.IsReadAs (BodyKind.update.encode change) change ∧
      checked (Response.ofJson 422 (ErrorResponse.ofReport default
          (.validation "Template name is required")).toJson) =
        .error (.refused 422 .validationError "Template name is required") ∧
      checked ((Server.serve ⟨[]⟩ env nilRequest).run .empty).1 =
        .error (.refused 404 .templateNotFound
          "Template not found: 00000000-0000-0000-0000-000000000000") := by
  intro values shown change env
  obtain ⟨hRead, hReport, hFailed⟩ := written_bodies_are_read
  refine ⟨?_, ?_, ?_, ?_⟩
  · have hValues : Json.Increasing values.values := by decide
    exact hRead .preview values shown hValues (.preview values (.swap _ _ _)) ⟨rfl, by decide⟩
  · exact hRead .update change change ⟨⟨rfl, rfl⟩, fun e he => nomatch he⟩ (.same _ _)
      ⟨rfl, by decide⟩
  · exact hReport default (.validation "Template name is required") _ _ (fun d hd => nomatch hd)
      (.same _ _) ⟨rfl, by decide⟩ rfl rfl
  · have hFails : (((Call.get default).perform ⟨env.now, env.now⟩).run .empty).1 =
        .error (.notFound default) := rfl
    have hId : (Uuid.toText default) = "00000000-0000-0000-0000-000000000000" := by decide +kernel
    have hTold := hFailed ⟨[]⟩ env nilRequest .empty Template _ _ (by decide)
      (.call (Request.comesTo (call?_nilRequest env))) hFails trivial
    rw [hTold]
    show Except.error (Client.Complaint.refused 404 .templateNotFound
      ("Template not found: " ++ (default : Uuid).toText)) = _
    rw [hId]
    rfl

end Galley
