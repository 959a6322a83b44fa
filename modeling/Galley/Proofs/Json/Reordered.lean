import Galley.Json.Shape

/-!
# Tables written in any order

A table has no order of its own: the side that writes it may write its members in any order, and
another order each time. Data of a shape are the same but for the order of their tables if one
*reorders* the other (`Shape.Reorders`).

Nothing but a table is reordered. Fields and lists stand as they are, and objects inside opaque
values are kept in order by both sides.

Main results:

* `Fields.Reorder.refl` — data are reordered by themselves.
* `Shape.Reorders.perm`, `Shape.Reorders.reorder` — what it says of tables and of records.
-/

namespace Galley.Json

mutual

/-- Data that differ in the order of their tables at most. -/
inductive Shape.Reorders : (shape : Shape) → shape.Value → shape.Value → Prop
  | same (shape : Shape) (x : shape.Value) : Shape.Reorders shape x x
  | table {value : Shape} {xs ys : List (String × value.Value)} (h : xs.Perm ys) :
    Shape.Reorders (.table value) xs ys
  | present {inner : Shape} {x y : inner.Value} (h : inner.Reorders x y) :
    Shape.Reorders (.nullable inner) (some x) (some y)
  | record {name : String} {fields : Fields} {xs ys : fields.Values} (h : fields.Reorder xs ys) :
    Shape.Reorders (.record name fields) xs ys

/-- Data of records that differ in the order of their tables at most. -/
inductive Fields.Reorder : (fields : Fields) → fields.Values → fields.Values → Prop
  | nil : Fields.Reorder .nil () ()
  | required {name : String} {shape : Shape} {rest : Fields} {x y : shape.Value}
    {xs ys : rest.Values} (first : shape.Reorders x y) (more : rest.Reorder xs ys) :
    Fields.Reorder (.cons name .required shape rest) (x, xs) (y, ys)
  | present {name : String} {shape : Shape} {rest : Fields} {x y : shape.Value}
    {xs ys : rest.Values} (first : shape.Reorders x y) (more : rest.Reorder xs ys) :
    Fields.Reorder (.cons name .optional shape rest) (some x, xs) (some y, ys)
  | absent {name : String} {shape : Shape} {rest : Fields} {xs ys : rest.Values}
    (more : rest.Reorder xs ys) :
    Fields.Reorder (.cons name .optional shape rest) (none, xs) (none, ys)

end

/-- Data of records reorder themselves. -/
theorem Fields.Reorder.refl : ∀ (fields : Fields) (xs : fields.Values), fields.Reorder xs xs
  | .nil, () => .nil
  | .cons _ .required shape rest, (x, xs) => .required (.same shape x) (refl rest xs)
  | .cons _ .optional shape rest, (some x, xs) => .present (.same shape x) (refl rest xs)
  | .cons _ .optional _ rest, (none, xs) => .absent (refl rest xs)

/-- Whether data may be left out is not a matter of order. -/
theorem Shape.Reorders.isAbsent_eq {shape : Shape} {x y : shape.Value} (h : shape.Reorders x y) :
    shape.isAbsent x = shape.isAbsent y := by
  cases h <;> rfl

section

variable {name : String} {value : Shape} {fields : Fields}

/-- The members of a table are the same, in any order. -/
theorem Shape.Reorders.perm {xs ys : List (String × value.Value)}
    (h : Shape.Reorders (.table value) xs ys) : xs.Perm ys := by
  cases h with
  | same => exact .refl _
  | table hPerm => exact hPerm

/-- What is there is reordered, and is there. -/
theorem Shape.Reorders.of_some {x : value.Value} {y : Option value.Value}
    (h : Shape.Reorders (.nullable value) (some x) y) : ∃ z, y = some z ∧ value.Reorders x z := by
  cases h with
  | same => exact ⟨x, rfl, .same value x⟩
  | present hInner => exact ⟨_, rfl, hInner⟩

/-- The fields of a record are reordered one by one. -/
theorem Shape.Reorders.reorder {xs ys : fields.Values}
    (h : Shape.Reorders (.record name fields) xs ys) : fields.Reorder xs ys := by
  cases h with
  | same => exact .refl fields xs
  | record hFields => exact hFields

end

end Galley.Json
