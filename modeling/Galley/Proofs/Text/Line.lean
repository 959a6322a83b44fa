import Galley.Text.Bytes
import Galley.Text.Line

/-!
# Lists of lines

Which lists of lines are the lines of a text: those in which every line but the last carries its
newline, and the last does or is not empty (`AreLines`). The property passes to every stretch of
such a list, and a text put together from lines that carry their newlines is cut into the same
lines again (`lines_flatten_append`).
-/

namespace Galley.Text

/-- A line that carries its newline. -/
def Ended (line : Line) : Prop := ∃ body : List Char, '\n' ∉ body ∧ line = body ++ ['\n']

/-- A line that lacks its newline. -/
def Open (line : Line) : Prop := line ≠ [] ∧ '\n' ∉ line

theorem Ended.endsWithNewline {line : Line} (h : Ended line) : endsWithNewline line = true := by
  obtain ⟨body, -, rfl⟩ := h
  simp [Text.endsWithNewline]

theorem Open.endsWithNewline {line : Line} (h : Open line) : endsWithNewline line = false := by
  rw [Text.endsWithNewline, beq_eq_false_iff_ne]
  intro hLast
  exact h.2 (List.mem_of_getLast? hLast)

theorem Open.not_ended {line : Line} (h : Open line) : ¬ Ended line := by
  rintro ⟨body, -, rfl⟩
  exact h.2 (by simp)

/-- A character in front of a line changes nothing about its end. -/
theorem Ended.cons {line : Line} {c : Char} (h : Ended line) (hc : c ≠ '\n') :
    Ended (c :: line) := by
  obtain ⟨body, hBody, rfl⟩ := h
  refine ⟨c :: body, ?_, rfl⟩
  rw [List.mem_cons, not_or]
  exact ⟨hc.symm, hBody⟩

/-- An open line is ended by a newline. -/
theorem Open.ended {line : Line} (h : Open line) : Ended (line ++ ['\n']) := ⟨line, h.2, rfl⟩

-- ---------------------------------------------------------------------------
-- Cutting
-- ---------------------------------------------------------------------------

/-- A text that starts with an ended line is cut behind it. -/
theorem lines_append {line : Line} (h : Ended line) (rest : List Char) :
    lines (line ++ rest) = line :: lines rest := by
  obtain ⟨body, hBody, rfl⟩ := h
  induction body with
  | nil => simp [consChar]
  | cons c body ih =>
    rw [List.mem_cons, not_or] at hBody
    rw [List.cons_append, List.cons_append, lines_cons, ih hBody.2, consChar,
      if_neg (Ne.symm hBody.1)]

/-- A text put together from ended lines is cut into them again. -/
theorem lines_flatten_append {ls : List Line} (h : ∀ line ∈ ls, Ended line) (rest : List Char) :
    lines (ls.flatten ++ rest) = ls ++ lines rest := by
  induction ls with
  | nil => rfl
  | cons line ls ih =>
    rw [List.flatten_cons, List.append_assoc, lines_append (h line (List.mem_cons_self ..)),
      ih fun l hl => h l (List.mem_cons_of_mem _ hl), List.cons_append]

/-- A text that ends with a newline is cut apart from what follows. -/
theorem lines_append_of_endsWithNewline {text : List Char} (h : endsWithNewline text = true)
    (rest : List Char) : lines (text ++ rest) = lines text ++ lines rest := by
  induction text with
  | nil => cases h
  | cons c text ih =>
    rw [List.cons_append, lines_cons, lines_cons]
    cases text with
    | nil =>
      obtain rfl : c = '\n' := by simpa [endsWithNewline] using h
      rfl
    | cons next more =>
      rw [endsWithNewline, List.getLast?_cons_cons] at h
      rw [ih h, consChar.eq_def, consChar.eq_def]
      split
      · rfl
      · -- there is a first line, so the character joins it on both sides
        have hLines : lines (next :: more) ≠ [] := by
          intro hNil
          have hFlat := flatten_lines (next :: more)
          rw [hNil] at hFlat
          cases hFlat
        obtain ⟨line, later, hLines⟩ := List.exists_cons_of_ne_nil hLines
        rw [hLines]
        rfl

-- ---------------------------------------------------------------------------
-- Which lists are the lines of a text
-- ---------------------------------------------------------------------------

/-- Every line is ended, but for the last one, which may be open. -/
structure AreLines (ls : List Line) : Prop where
  ended : ∀ line ∈ ls.dropLast, Ended line
  each : ∀ line ∈ ls, Ended line ∨ Open line

theorem AreLines.tail {line : Line} {ls : List Line} (h : AreLines (line :: ls)) : AreLines ls := by
  refine ⟨fun l hl => h.ended l ?_, fun l hl => h.each l (List.mem_cons_of_mem _ hl)⟩
  cases ls with
  | nil => simp at hl
  | cons next more => exact List.mem_cons_of_mem _ hl

/-- Only the last line can be open. -/
theorem AreLines.eq_nil_of_open {line : Line} {ls : List Line} (h : AreLines (line :: ls))
    (hOpen : Open line) : ls = [] := by
  cases ls with
  | nil => rfl
  | cons next more => exact absurd (h.ended line (List.mem_cons_self ..)) hOpen.not_ended

/-- A stretch of the lines of a text are lines of a text. -/
theorem AreLines.of_infix {xs ls : List Line} (h : AreLines ls) (hxs : xs <:+: ls) :
    AreLines xs := by
  obtain ⟨front, rest, rfl⟩ := hxs
  refine ⟨fun l hl => h.ended l ?_, fun l hl => h.each l (by simp [hl])⟩
  by_cases hRest : rest = []
  · have hne : xs ≠ [] := by
      rintro rfl
      simp at hl
    rw [hRest, List.append_nil, List.dropLast_append_of_ne_nil hne]
    exact List.mem_append_right _ hl
  · rw [List.dropLast_append_of_ne_nil hRest]
    exact List.mem_append_left _ (List.mem_append_right _ (List.dropLast_subset _ hl))

/-- The lines of a text. -/
theorem areLines_lines (text : List Char) : AreLines (lines text) := by
  induction text with
  | nil => exact ⟨by simp [lines], by simp [lines]⟩
  | cons c rest ih =>
    rw [lines_cons, consChar.eq_def]
    split
    · -- a newline is a line of its own, and what comes behind it starts another
      next hc =>
      have hHead : Ended [c] := ⟨[], by simp, by simp [hc]⟩
      refine ⟨fun l hl => ?_, fun l hl => ?_⟩
      · generalize lines rest = ls at *
        cases ls with
        | nil => simp at hl
        | cons next more =>
          rcases List.mem_cons.mp hl with rfl | hl
          · exact hHead
          · exact ih.ended l hl
      · rcases List.mem_cons.mp hl with rfl | hl
        · exact Or.inl hHead
        · exact ih.each l hl
    · next hc =>
      split
      · refine ⟨by simp, fun l hl => ?_⟩
        rw [List.mem_singleton] at hl
        exact Or.inr ⟨by simp [hl], by simp [hl, Ne.symm hc]⟩
      · next line more hLines =>
        rw [hLines] at ih
        refine ⟨fun l hl => ?_, fun l hl => ?_⟩
        · cases more with
          | nil => simp at hl
          | cons next more =>
            rcases List.mem_cons.mp hl with rfl | hl
            · exact (ih.ended line (List.mem_cons_self ..)).cons hc
            · exact ih.ended l (List.mem_cons_of_mem _ hl)
        · rcases List.mem_cons.mp hl with rfl | hl
          · rcases ih.each line (List.mem_cons_self ..) with hEnded | hOpen
            · exact Or.inl (hEnded.cons hc)
            · refine Or.inr ⟨by simp, ?_⟩
              rw [List.mem_cons, not_or]
              exact ⟨Ne.symm hc, hOpen.2⟩
          · exact ih.each l (List.mem_cons_of_mem _ hl)

/-- A text has no more lines than characters. -/
theorem length_lines_le (text : List Char) : (lines text).length ≤ text.length := by
  induction text with
  | nil => exact Nat.le_refl _
  | cons c rest ih =>
    rw [lines_cons, consChar.eq_def]
    split
    · simpa using ih
    · split
      · simp
      · next line more hLines =>
        rw [hLines] at ih
        simp only [List.length_cons] at ih ⊢
        omega

/-- A text has no more lines than bytes. -/
theorem length_lines_le_byteLength (text : List Char) : (lines text).length ≤ byteLength text := by
  refine Nat.le_trans (length_lines_le text) ?_
  induction text with
  | nil => exact Nat.le_refl _
  | cons c rest ih =>
    have hSize := c.utf8Size_pos
    rw [List.length_cons, byteLength]
    omega

end Galley.Text
