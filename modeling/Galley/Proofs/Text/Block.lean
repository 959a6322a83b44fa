import Galley.Text.Line

/-!
# Blocks of lines

Where a block of consecutive lines stands in a list of lines. A place is told by the number of lines
in front of it, so places are counted with overlaps.
-/

namespace Galley.Text

/-- The places where a block stands in a list of lines. -/
def places (block lines : List Line) : List Nat :=
  (List.range (lines.length + 1)).filter fun i => block.isPrefixOf (lines.drop i)

/-- Whether a block stands in a list of lines at exactly one place. -/
def OccursOnce (block lines : List Line) : Prop := (places block lines).length = 1

/-- Whether a block stands nowhere in a list of lines. -/
def OccursNowhere (block lines : List Line) : Prop := places block lines = []

instance (block lines : List Line) : Decidable (OccursOnce block lines) :=
  inferInstanceAs (Decidable (_ = _))

instance (block lines : List Line) : Decidable (OccursNowhere block lines) :=
  inferInstanceAs (Decidable (_ = _))

variable {block lines : List Line}

/-- A place has lines in front of it and lines behind it. -/
theorem mem_places {i : Nat} :
    i ∈ places block lines ↔ ∃ front back, lines = front ++ block ++ back ∧ front.length = i := by
  rw [places, List.mem_filter, List.mem_range, List.isPrefixOf_iff_prefix]
  constructor
  · rintro ⟨hi, back, hBack⟩
    refine ⟨lines.take i, back, ?_, by rw [List.length_take]; omega⟩
    rw [List.append_assoc, hBack, List.take_append_drop]
  · rintro ⟨front, back, rfl, rfl⟩
    refine ⟨?_, back, ?_⟩
    · simp only [List.length_append]
      omega
    · rw [List.append_assoc, List.drop_left]

/-- A block that stands nowhere is no stretch of the lines. -/
theorem OccursNowhere.ne (h : OccursNowhere block lines) (front back : List Line) :
    lines ≠ front ++ block ++ back := by
  intro hLines
  have hPlace := mem_places.mpr ⟨front, back, hLines, rfl⟩
  rw [h] at hPlace
  cases hPlace

/-- What stands in front of a block that occurs once. -/
theorem OccursOnce.length_unique (h : OccursOnce block lines) {front front' back back' : List Line}
    (hLines : lines = front ++ block ++ back) (hLines' : lines = front' ++ block ++ back') :
    front.length = front'.length := by
  obtain ⟨i, hPlaces⟩ := List.length_eq_one_iff.mp h
  have hPlace := mem_places.mpr ⟨front, back, hLines, rfl⟩
  have hPlace' := mem_places.mpr ⟨front', back', hLines', rfl⟩
  rw [hPlaces, List.mem_singleton] at hPlace hPlace'
  rw [hPlace, hPlace']

/-- The empty block stands everywhere, so only in no lines at all it occurs once. -/
theorem OccursOnce.ne_nil (h : OccursOnce block lines) (hLines : lines ≠ []) : block ≠ [] := by
  rintro rfl
  have hFirst : lines = [] ++ [] ++ lines := rfl
  have hLast : lines = lines ++ [] ++ [] := by simp
  exact hLines (List.length_eq_zero_iff.mp (h.length_unique hLast hFirst))

end Galley.Text
