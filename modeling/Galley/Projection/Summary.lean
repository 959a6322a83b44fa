import Galley.Json.ShapeReader

/-!
# The list of templates

A summary is one row of the list of templates. A *catalog* holds one summary for each template, in
the order of their identifiers. What clients see is `Catalog.listing`: newest first, and templates
of the same instant in the order of their identifiers.
-/

namespace Galley

/-- One row of the list of templates. -/
structure Summary where
  id : Uuid
  name : String
  description : String
  archived : Bool
  createdAt : Instant
  updatedAt : Instant
  deriving DecidableEq

namespace Summary

/-- The shape of a summary. -/
abbrev shape : Json.Shape :=
  .record "TemplateSummary"
    (.cons "id" .required .uuid
      (.cons "name" .required .text
        (.cons "description" .required .text
          (.cons "archived" .required .flag
            (.cons "createdAt" .required .instant
              (.cons "updatedAt" .required .instant .nil))))))

/-- The summary as data of its shape. -/
def toData (s : Summary) : shape.Value :=
  (s.id, s.name, s.description, s.archived, s.createdAt, s.updatedAt, ())

/-- The summary that data of its shape stands for. -/
def ofData : shape.Value → Summary
  | (id, name, description, archived, createdAt, updatedAt, ()) =>
    ⟨id, name, description, archived, createdAt, updatedAt⟩

/-- The summary as JSON. -/
def toJson (s : Summary) : Json := shape.encode s.toData

/-- Whether `a` is listed before `b`, or may be: it is newer, or as new and not behind it in the
order of identifiers. -/
def listedBefore (a b : Summary) : Bool :=
  match Instant.compare b.createdAt a.createdAt with
  | .lt => true
  | .gt => false
  | .eq => (Uuid.compare a.id b.id).isLE

end Summary

/-- The summaries of all templates, in the order of their identifiers. -/
structure Catalog where
  rows : List Summary
  deriving DecidableEq

namespace Catalog

/-- The catalog without templates. -/
def empty : Catalog := ⟨[]⟩

instance : Inhabited Catalog := ⟨empty⟩

/-- The summary of a template. -/
def get? (c : Catalog) (id : Uuid) : Option Summary := c.rows.find? fun s => s.id == id

/-- Puts a summary among rows in order; it replaces one of the same template. -/
def insertRow (s : Summary) : List Summary → List Summary
  | [] => [s]
  | row :: rest =>
    match Uuid.compare s.id row.id with
    | .lt => s :: row :: rest
    | .eq => s :: rest
    | .gt => row :: insertRow s rest

/-- The catalog with a summary added or replaced. -/
def insert (c : Catalog) (s : Summary) : Catalog := ⟨insertRow s c.rows⟩

/-- The catalog of a list of summaries; of several for one template the last stays. -/
def ofList (summaries : List Summary) : Catalog := summaries.foldl insert empty

/-- All summaries, newest first. -/
def listing (c : Catalog) : List Summary := c.rows.mergeSort Summary.listedBefore

/-- The shape of a list of summaries. -/
abbrev shape : Json.Shape := .list Summary.shape

/-- The listing as JSON. -/
def toJson (c : Catalog) : Json := shape.encode (c.listing.map Summary.toData)

/-- The catalog that JSON stands for. -/
def ofJson (j : Json) : Except Json.Mismatch Catalog :=
  (shape.decode j).map fun rows => ofList (rows.map Summary.ofData)

end Catalog

end Galley
