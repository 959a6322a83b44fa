import Galley.Projection.Summary
import Galley.Template.Event

/-!
# Folding events into the list of templates

The catalog follows the log: each event changes the row of its template. Events of other types are
passed over. Unlike replay, folding looks neither at versions nor at content, so it also takes
events that no replay would.
-/

namespace Galley.Catalog

/-- The row that an event changes; a template must have been created before. -/
def rowOf (c : Catalog) (e : StoredEvent) : Except Failure Summary :=
  match c.get? e.aggregateId with
  | some row => .ok row
  | none => .error (.neverCreated e.kind e.sequence e.aggregateId)

/-- Takes what happened to the template of a record. -/
def take (c : Catalog) (e : StoredEvent) : TemplateEvent → Except Failure Catalog
  | .created name description _ t =>
    .ok (c.insert ⟨e.aggregateId, name, description, false, t, t⟩)
  | .updated name description _ t =>
    (c.rowOf e).map fun row =>
      c.insert { row with name := name, description := description, updatedAt := t }
  | .archived t =>
    (c.rowOf e).map fun row => c.insert { row with archived := true, updatedAt := t }

/-- Folds one record. -/
def fold (c : Catalog) (e : StoredEvent) : Except Failure Catalog :=
  if e.aggregateType ≠ TemplateEvent.aggregateType then .ok c
  else e.decode >>= c.take e

/-- Folds a list of records. -/
def foldAll : Catalog → List StoredEvent → Except Failure Catalog
  | c, [] => .ok c
  | c, e :: rest => c.fold e >>= fun c => foldAll c rest

end Galley.Catalog
