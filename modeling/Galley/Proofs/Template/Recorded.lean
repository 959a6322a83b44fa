import Galley.Proofs.Json.Decoding
import Galley.Proofs.Template.Canonical
import Galley.Proofs.Template.Event
import Galley.Proofs.Template.Objection

/-!
# What records stand for

A record is a kind and a payload, and the kind alone says how the payload is to be read. So two
things could go wrong. A payload under a kind that is not its own could be read all the same, as
another event. And since reading is tolerant and writing is not, an event could come back changed
when it is recorded anew.

Neither happens. Each of the three shapes demands a field that the others do not have. And whatever
is read is an event that can be recorded, however its payload was spelled.

Main results:

* `decode_mismatched` — a payload is not read under another kind.
* `isValid_of_decode` — what is read can be recorded, under the kind that it was read under.
* `decode_recorded` — an event is read back from its record and from no other, and what is read from
  any record is read back when it is recorded anew.
-/

namespace Galley.TemplateEvent

-- ---------------------------------------------------------------------------
-- Kinds kept apart
-- ---------------------------------------------------------------------------

/-- The payload of an event is the canonical form of a record of the shape of its kind. -/
theorem encode_eq (e : TemplateEvent) : ∃ name fields, ∃ xs : Json.Fields.Values fields,
    shapeOf? e.kind = some (.record name fields) ∧ fields.areWellFormed = true ∧
      e.encode = ((Json.Shape.record name fields).encode xs).canonical := by
  cases e with
  | created name description content t => exact ⟨_, _, _, rfl, by decide, rfl⟩
  | updated name description patch t => exact ⟨_, _, _, rfl, by decide, rfl⟩
  | archived t => exact ⟨_, _, _, rfl, by decide, rfl⟩

/-- A known kind is one of three. -/
theorem kind_of_shapeOf? {kind : String} {shape : Json.Shape} (h : shapeOf? kind = some shape) :
    (kind = createdKind ∧ shape = createdShape) ∨ (kind = updatedKind ∧ shape = updatedShape) ∨
      (kind = archivedKind ∧ shape = archivedShape) := by
  rw [shapeOf?] at h
  split at h
  · next hKind => exact .inl ⟨hKind, (Option.some.inj h).symm⟩
  split at h
  · next hKind => exact .inr (.inl ⟨hKind, (Option.some.inj h).symm⟩)
  split at h
  · next hKind => exact .inr (.inr ⟨hKind, (Option.some.inj h).symm⟩)
  · cases h

/-- **The shape of a kind demands a field that no other shape has.** -/
theorem exists_demanded {kind kind' name name' : String} {fields fields' : Json.Fields}
    (h : shapeOf? kind = some (.record name fields))
    (h' : shapeOf? kind' = some (.record name' fields')) (hOther : kind' ≠ kind) :
    ∃ field ∈ fields'.demands, field ∉ fields.names := by
  obtain ⟨rfl, hShape⟩ | ⟨rfl, hShape⟩ | ⟨rfl, hShape⟩ := kind_of_shapeOf? h
  · cases hShape
    obtain ⟨rfl, -⟩ | ⟨rfl, hShape'⟩ | ⟨rfl, hShape'⟩ := kind_of_shapeOf? h'
    · exact absurd rfl hOther
    · cases hShape'
      exact ⟨"content_patch", by decide, by decide⟩
    · cases hShape'
      exact ⟨"archived_at", by decide, by decide⟩
  · cases hShape
    obtain ⟨rfl, hShape'⟩ | ⟨rfl, -⟩ | ⟨rfl, hShape'⟩ := kind_of_shapeOf? h'
    · cases hShape'
      exact ⟨"content", by decide, by decide⟩
    · exact absurd rfl hOther
    · cases hShape'
      exact ⟨"archived_at", by decide, by decide⟩
  · cases hShape
    obtain ⟨rfl, hShape'⟩ | ⟨rfl, hShape'⟩ | ⟨rfl, -⟩ := kind_of_shapeOf? h'
    · cases hShape'
      exact ⟨"content", by decide, by decide⟩
    · cases hShape'
      exact ⟨"content_patch", by decide, by decide⟩
    · exact absurd rfl hOther

/-- **A payload is not read under another kind**: either the kind is unknown, or the payload does
not have its shape. -/
theorem decode_mismatched (e : TemplateEvent) {kind : String} (hOther : kind ≠ e.kind) :
    decode kind e.encode = .error (.unknownKind kind) ∨
      ∃ cause, decode kind e.encode = .error (.unreadablePayload kind cause) := by
  obtain ⟨name, fields, xs, hShape, hWell, hEncode⟩ := e.encode_eq
  cases hKind : shapeOf? kind with
  | none => exact .inl (decode_of_unknown hKind _)
  | some shape =>
    obtain ⟨cause, -, hError⟩ | ⟨ys, -, hRead, -⟩ := decode_of_known hKind e.encode
    · exact .inr ⟨cause, hError⟩
    · obtain ⟨name', fields', rfl⟩ : ∃ name' fields', shape = .record name' fields' := by
        obtain ⟨-, rfl⟩ | ⟨-, rfl⟩ | ⟨-, rfl⟩ := kind_of_shapeOf? hKind <;> exact ⟨_, _, rfl⟩
      obtain ⟨field, hDemanded, hLacks⟩ := exists_demanded hShape hKind hOther
      rw [hEncode] at hRead
      exact absurd (Json.Shape.demands_of_decode_encode hWell hRead field hDemanded) hLacks

-- ---------------------------------------------------------------------------
-- Events that are read
-- ---------------------------------------------------------------------------

theorem decode_of_decodeAs {kind : String} {shape : Json.Shape} {payload : Json} {x : shape.Value}
    (h : decodeAs kind shape payload = .ok x) : shape.decode payload = .ok x := by
  rw [decodeAs] at h
  split at h
  · next data hData =>
    cases h
    exact hData
  · cases h

/-- The content of a creation that is read is valid, as it comes out of a valid payload. -/
theorem isValid_content {payload : Json} (hPayload : payload.isValid = true)
    {name description : String} {content : Content.shape.Value} {t : Instant}
    (h : createdShape.decode payload = .ok (name, description, content, t, ())) :
    (Content.ofData content).IsValid := by
  have hReadable : Json.IsReadable (payload.depth + 3) payload :=
    ⟨hPayload, Nat.le_add_right _ _⟩
  obtain ⟨inner, hLevels, -, -, hContent, -⟩ := createdShape.admits_of_decode hReadable h
  cases hLevels
  exact (Content.of_admits hContent).1

/-- **What is read can be recorded**, under the kind that it was read under. -/
theorem isValid_of_decode {kind : String} {payload : Json} {e : TemplateEvent}
    (hPayload : payload.isValid = true) (h : decode kind payload = .ok e) :
    e.IsValid ∧ e.kind = kind := by
  rw [decode] at h
  split at h
  · next hKind =>
    obtain ⟨⟨name, description, content, t, ⟨⟩⟩, hRead, rfl⟩ := map_eq_ok.mp h
    exact ⟨isValid_content hPayload (decode_of_decodeAs hRead), hKind.symm⟩
  split at h
  · next hKind =>
    obtain ⟨⟨name, description, patch, t, ⟨⟩⟩, -, rfl⟩ := map_eq_ok.mp h
    exact ⟨trivial, hKind.symm⟩
  split at h
  · next hKind =>
    obtain ⟨⟨t, ⟨⟩⟩, -, rfl⟩ := map_eq_ok.mp h
    exact ⟨trivial, hKind.symm⟩
  · cases h

-- ---------------------------------------------------------------------------
-- Records
-- ---------------------------------------------------------------------------

/-- **What records stand for.** An event is read back from its kind and payload, and its payload is
not read under another kind. And whatever is read from a kind and a payload is an event of that kind
that is read back when it is recorded anew. -/
theorem decode_recorded :
    (∀ e : TemplateEvent, e.IsValid → decode e.kind e.encode = .ok e ∧
      ∀ kind, kind ≠ e.kind → decode kind e.encode = .error (.unknownKind kind) ∨
        ∃ cause, decode kind e.encode = .error (.unreadablePayload kind cause)) ∧
    ∀ kind payload e, payload.isValid = true → decode kind payload = .ok e →
      e.IsValid ∧ e.kind = kind ∧ decode e.kind e.encode = .ok e := by
  refine ⟨fun e hValid => ⟨decode_encode hValid, fun _ => e.decode_mismatched⟩,
    fun kind payload e hPayload hRead => ?_⟩
  obtain ⟨hValid, hKind⟩ := isValid_of_decode hPayload hRead
  exact ⟨hValid, hKind, decode_encode hValid⟩

/-- A creation in a leap second of a far year. -/
def leaping : TemplateEvent :=
  created "a" "b\n" ⟨.standard, [.object [("x", .number (.real ⟨true, 1⟩))], .null], []⟩
    ⟨12345, 6, 30, 86399, 1500000000, by decide, by decide⟩

/-- Its payload as a list of fields, the content with a member that is skipped and without most of
its own, the second spelled for another zone. -/
def leapingLoosely : Json :=
  .array [.string "a", .string "b\n",
    .object [("components", .array [.object [("x", .number (.real ⟨true, 1⟩))], .null]),
      ("other", .bool true)],
    .string "+12345-07-01 01:59:60.50 +02:00"]

/-- The leap second is read back from its record, not under another kind, and from the loose payload
as well. -/
theorem decode_recorded_of_leaping :
    leaping.IsValid ∧ decode leaping.kind leaping.encode = .ok leaping ∧
      updatedKind ≠ leaping.kind ∧ decode updatedKind leaping.encode ≠ .ok leaping ∧
      leapingLoosely.isValid = true ∧ decode createdKind leapingLoosely = .ok leaping ∧
      leaping.kind = createdKind := by
  have hValid : leaping.IsValid := ⟨by decide, by decide⟩
  have hOther : updatedKind ≠ leaping.kind := by decide
  have hLoose : leapingLoosely.isValid = true := by decide
  have hSecond : Json.instantOfText "+12345-07-01 01:59:60.50 +02:00" = .ok leaping.occurredAt :=
    toOption_eq_some.mp (by decide +kernel)
  have hRead : decode createdKind leapingLoosely = .ok leaping := by
    rw [decode, if_pos rfl, decodeAs]
    simp only [leapingLoosely, Json.Shape.decode, Json.Fields.decodeList, hSecond]
    rfl
  obtain ⟨hBack, hMismatched⟩ := decode_recorded.1 leaping hValid
  refine ⟨hValid, hBack, hOther, fun hTaken => ?_, hLoose, hRead,
    (decode_recorded.2 _ _ _ hLoose hRead).2.1⟩
  obtain hUnknown | ⟨cause, hUnreadable⟩ := hMismatched _ hOther
  · cases hTaken.symm.trans hUnknown
  · cases hTaken.symm.trans hUnreadable

end Galley.TemplateEvent
