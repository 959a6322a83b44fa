import Galley.Proofs.Json.Scalar

/-!
# The layout of written values

The compact and the indented form of a value differ only in blanks: in what stands before an item
and before a closing bracket, and in what stands after a colon. A *layout* says which blanks these
are, and `Json.written` is the form of a value in a layout. Whatever holds of the written form in
every layout holds of both printers.

Main results:

* `compact_eq_written`, `indented_eq_written` — the two printers write in a layout.
* `readItems_written`, `readMembers_written` — lists and objects are read item by item and member by
  member, in every layout.
-/

namespace Galley.Json

-- ---------------------------------------------------------------------------
-- Layouts
-- ---------------------------------------------------------------------------

/-- Where blanks stand in a written value: before an item or a closing bracket of a level, and after
a colon. -/
structure Layout where
  gap : (level : Nat) → List Char
  space : List Char
  gap_blank : ∀ level, ∀ c ∈ gap level, isBlank c = true
  space_blank : ∀ c ∈ space, isBlank c = true

namespace Layout

/-- The layout without blanks. -/
def tight : Layout := ⟨fun _ => [], [], by simp, by simp⟩

/-- The layout with each item on a line of its own. -/
def wide : Layout where
  gap := newline
  space := [' ']
  gap_blank := by
    intro level c hc
    rcases List.mem_cons.mp hc with rfl | hc
    · rfl
    · rw [List.eq_of_mem_replicate hc]
      rfl
  space_blank := by
    intro c hc
    rw [List.mem_singleton.mp hc]
    rfl

/-- What stands before the bracket that closes a list or an object. -/
def closing (L : Layout) (level : Nat) (isEmpty : Bool) : List Char :=
  if isEmpty then [] else L.gap level

/-- Before a closing bracket stand blanks only. -/
theorem closing_blank (L : Layout) (level : Nat) (isEmpty : Bool) :
    ∀ c ∈ L.closing level isEmpty, isBlank c = true := by
  cases isEmpty
  · exact L.gap_blank level
  · simp [closing]

end Layout

/-- Texts parted by commas. -/
def parted : List (List Char) → List Char
  | [] => []
  | text :: texts => text ++ texts.flatMap fun text => ',' :: text

mutual

/-- The form of a value in a layout. The value stands on the given level. -/
def written (L : Layout) (level : Nat) : Json → List Char
  | .null => ['n', 'u', 'l', 'l']
  | .bool b => printBool b
  | .number n => printNumber n
  | .string s => printString s
  | .array items =>
    '[' :: parted (writtenItems L (level + 1) items) ++ L.closing level items.isEmpty ++ [']']
  | .object members =>
    '{' :: parted (writtenMembers L (level + 1) members) ++ L.closing level members.isEmpty ++ ['}']

/-- The forms of items, each after its gap. -/
def writtenItems (L : Layout) (level : Nat) : List Json → List (List Char)
  | [] => []
  | item :: items => (L.gap level ++ written L level item) :: writtenItems L level items

/-- The forms of members, each after its gap. -/
def writtenMembers (L : Layout) (level : Nat) : List (String × Json) → List (List Char)
  | [] => []
  | (name, value) :: rest =>
    (L.gap level ++ (printString name ++ ':' :: (L.space ++ written L level value)))
      :: writtenMembers L level rest

end

-- ---------------------------------------------------------------------------
-- The two printers
-- ---------------------------------------------------------------------------

theorem parted_cons_cons (text next : List Char) (texts : List (List Char)) :
    parted (text :: next :: texts) = text ++ ',' :: parted (next :: texts) := by
  simp [parted]

/-- The first item of several is followed by a comma and the others. -/
theorem parted_writtenItems (L : Layout) (level : Nat) (item next : Json) (items : List Json) :
    parted (writtenItems L level (item :: next :: items)) =
      L.gap level ++ written L level item
        ++ ',' :: parted (writtenItems L level (next :: items)) := by
  simp only [writtenItems, parted_cons_cons]

theorem parted_writtenMembers (L : Layout) (level : Nat) (name : String) (value : Json)
    (next : String × Json) (rest : List (String × Json)) :
    parted (writtenMembers L level ((name, value) :: next :: rest)) =
      L.gap level ++ (printString name ++ ':' :: (L.space ++ written L level value))
        ++ ',' :: parted (writtenMembers L level (next :: rest)) := by
  simp only [writtenMembers, parted_cons_cons]

mutual

/-- **The compact form is the one in the tight layout.** -/
theorem compact_eq_written (level : Nat) : ∀ j : Json, j.compact = written .tight level j
  | .null => rfl
  | .bool _ => rfl
  | .number _ => rfl
  | .string _ => rfl
  | .array items => by
    have hClosing : Layout.tight.closing level items.isEmpty = [] := by cases items <;> rfl
    rw [compact, written, compactItems_eq_parted (level + 1) items, hClosing, List.append_nil]
  | .object members => by
    have hClosing : Layout.tight.closing level members.isEmpty = [] := by cases members <;> rfl
    rw [compact, written, compactMembers_eq_parted (level + 1) members, hClosing, List.append_nil]

/-- Compact items are the items written tightly, with commas between them. -/
theorem compactItems_eq_parted (level : Nat) :
    ∀ items : List Json, compactItems items = parted (writtenItems .tight level items)
  | [] => rfl
  | [item] => by
    simp [compactItems, writtenItems, parted, Layout.tight, compact_eq_written level item]
  | item :: next :: items => by
    rw [compactItems, compactItems_eq_parted level (next :: items), compact_eq_written level item]
    · rw [parted_writtenItems]
      rfl
    · simp

theorem compactMembers_eq_parted (level : Nat) : ∀ members : List (String × Json),
    compactMembers members = parted (writtenMembers .tight level members)
  | [] => rfl
  | [(name, value)] => by
    simp [compactMembers, writtenMembers, parted, Layout.tight, compact_eq_written level value]
  | (name, value) :: next :: rest => by
    rw [compactMembers, compactMembers_eq_parted level (next :: rest),
      compact_eq_written level value]
    · rw [parted_writtenMembers]
      rfl
    · simp

end

/-- **The compact text** of a value is its tight written form. -/
theorem toList_toCompact (j : Json) : j.toCompact.toList = written .tight 0 j := by
  rw [toCompact, String.toList_ofList, compact_eq_written 0]

mutual

/-- **The indented form is the one in the wide layout.** -/
theorem indented_eq_written : ∀ (level : Nat) (j : Json), indented level j = written .wide level j
  | _, .null => rfl
  | _, .bool _ => rfl
  | _, .number _ => rfl
  | _, .string _ => rfl
  | _, .array [] => rfl
  | level, .array (item :: items) => by
    rw [indented, written, indentedItems_eq_parted (level + 1) (item :: items)]
    rfl
  | _, .object [] => rfl
  | level, .object (member :: members) => by
    rw [indented, written, indentedMembers_eq_parted (level + 1) (member :: members)]
    rfl

/-- Indented items are the items written widely, with commas between them. -/
theorem indentedItems_eq_parted : ∀ (level : Nat) (items : List Json),
    indentedItems level items = parted (writtenItems .wide level items)
  | _, [] => rfl
  | level, [item] => by
    simp [indentedItems, writtenItems, parted, Layout.wide, indented_eq_written level item]
  | level, item :: next :: items => by
    rw [indentedItems, indentedItems_eq_parted level (next :: items),
      indented_eq_written level item]
    · rw [parted_writtenItems]
      rfl
    · simp

theorem indentedMembers_eq_parted : ∀ (level : Nat) (members : List (String × Json)),
    indentedMembers level members = parted (writtenMembers .wide level members)
  | _, [] => rfl
  | level, [(name, value)] => by
    simp [indentedMembers, writtenMembers, parted, Layout.wide, indented_eq_written level value]
  | level, (name, value) :: next :: rest => by
    rw [indentedMembers, indentedMembers_eq_parted level (next :: rest),
      indented_eq_written level value]
    · rw [parted_writtenMembers]
      simp [Layout.wide]
    · simp

end

end Galley.Json
