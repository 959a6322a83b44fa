import Galley.Patch.Script

/-!
# The sides of an edit script

Whatever point the midpoint search comes up with, an alignment is a script between the two
sequences it was made for: the cut of the common ends loses nothing, and any cut in the middle
splits both sides into two halves that are aligned on their own. Compaction only rearranges a
script. Each move of an edit (past kept elements that equal its own, past an edit of the other
kind, into one of its own kind) leaves both sides as they are, so they can be followed through a
cursor and through the scan over the whole script.

Main results:

* `align_sides` — an alignment has the two given sides.
* `raise_sides` / `lower_sides` — moving the picked edit keeps both sides.
* `between_before` / `between_after` — so has the compacted script.
-/

namespace Galley.Patch

variable {α : Type} [DecidableEq α]

-- ---------------------------------------------------------------------------
-- Sides of joined scripts
-- ---------------------------------------------------------------------------

namespace Script

omit [DecidableEq α]

@[simp] theorem before_nil : before ([] : Script α) = [] := rfl

@[simp] theorem after_nil : after ([] : Script α) = [] := rfl

@[simp] theorem before_cons (e : Edit α) (s : Script α) :
    before (e :: s) = e.before ++ before s := by
  simp [before]

@[simp] theorem after_cons (e : Edit α) (s : Script α) :
    after (e :: s) = e.after ++ after s := by
  simp [after]

@[simp] theorem before_append (s t : Script α) : before (s ++ t) = before s ++ before t := by
  simp [before]

@[simp] theorem after_append (s t : Script α) : after (s ++ t) = after s ++ after t := by
  simp [after]

end Script

attribute [simp] Edit.before Edit.after

omit [DecidableEq α] in
/-- A left-out keep stands for nothing on either side. -/
@[simp] theorem before_keeping (xs : List α) : Script.before (Edit.keeping xs) = xs := by
  unfold Edit.keeping
  split <;> simp_all

omit [DecidableEq α] in
@[simp] theorem after_keeping (xs : List α) : Script.after (Edit.keeping xs) = xs := by
  unfold Edit.keeping
  split <;> simp_all

-- ---------------------------------------------------------------------------
-- Alignment
-- ---------------------------------------------------------------------------

/-- An alignment is a script from the one sequence to the other. The induction follows the two
recursive calls; where the midpoint makes no progress the block is replaced, which is a script
between its two sides as well. -/
theorem align_sides (old new : List α) :
    Script.before (align old new) = old ∧ Script.after (align old new) = new := by
  induction old, new using align.induct with
  | _ old new ends inner olds news ihUpper ihLower =>
    have hPrefix := cutPrefix_append old new
    have hSuffix := append_cutSuffix (cutPrefix old new).2.1 (cutPrefix old new).2.2
    rw [align]
    simp only [Script.before_append, Script.after_append, before_keeping, after_keeping]
    simp only [olds, news, inner, ends] at ihUpper ihLower
    clear olds news inner ends
    generalize cutPrefix old new = ends at *
    generalize cutSuffix ends.2.1 ends.2.2 = inner at *
    -- it is enough to know the sides of what stands between the common ends
    suffices hMiddle : ∀ middle : Script α,
        Script.before middle = inner.2.1 ∧ Script.after middle = inner.2.2 →
        ends.1 ++ Script.before middle ++ inner.1 = old ∧
          ends.1 ++ Script.after middle ++ inner.1 = new by
      apply hMiddle
      split
      · simp_all
      · split
        · simp_all
        · split
          · simp
          · split
            · next x y _ hInside =>
              simp [ihUpper x y hInside, ihLower x y hInside]
            · simp
    intro middle hSides
    rw [hSides.1, hSides.2, List.append_assoc, List.append_assoc, hSuffix.1, hSuffix.2]
    exact hPrefix

-- ---------------------------------------------------------------------------
-- Scripts with the same sides
-- ---------------------------------------------------------------------------

namespace Script

/-- Two scripts lead from the same sequence to the same sequence. -/
def SameSides (s t : Script α) : Prop := before s = before t ∧ after s = after t

omit [DecidableEq α]

theorem SameSides.refl (s : Script α) : SameSides s s := ⟨rfl, rfl⟩

theorem SameSides.trans {s t u : Script α} (hst : SameSides s t) (htu : SameSides t u) :
    SameSides s u :=
  ⟨hst.1.trans htu.1, hst.2.trans htu.2⟩

/-- Reading a script backwards reverses both sides. -/
theorem before_reversed (s : Script α) :
    before (s.map Edit.reversed).reverse = (before s).reverse := by
  induction s with
  | nil => rfl
  | cons e s ih => cases e <;> simp [Edit.reversed, ih]

/-- A script that is read backwards ends in the new text read backwards. -/
theorem after_reversed (s : Script α) :
    after (s.map Edit.reversed).reverse = (after s).reverse := by
  induction s with
  | nil => rfl
  | cons e s ih => cases e <;> simp [Edit.reversed, ih]

end Script

-- ---------------------------------------------------------------------------
-- Moving one edit
-- ---------------------------------------------------------------------------

namespace Cursor

/-- The whole script of a cursor, the picked edit back in its place. -/
def script (c : Cursor α) : Script α := c.above.reverse ++ c.kind.edit c.edit :: c.below

omit [DecidableEq α] in
/-- Elements put below the edit are kept there. -/
theorem before_keepBelow (xs : List α) (below : List (Edit α)) :
    Script.before (keepBelow xs below) = xs ++ Script.before below := by
  unfold keepBelow
  split <;> simp

omit [DecidableEq α] in
/-- Lines kept in front of a script are in front of its new text. -/
theorem after_keepBelow (xs : List α) (below : List (Edit α)) :
    Script.after (keepBelow xs below) = xs ++ Script.after below := by
  unfold keepBelow
  split <;> simp

/-- **Moving an edit up keeps both sides.** Past a keep it takes the elements that equal its own
last ones from above and leaves them below: with `edit = as ++ cs` and the keep `bs ++ cs`, both
orders spell `bs ++ cs ++ as ++ cs` with and `bs ++ cs` without the edit. -/
theorem shiftUp_sides (kind : EditKind) (above : List (Edit α)) (edit : List α)
    (below : List (Edit α)) :
    Script.SameSides (shiftUp kind above edit below).script
      (Cursor.script ⟨above, kind, edit, below⟩) := by
  fun_induction shiftUp kind above edit below with
  | case1 edit below => exact .refl _
  | case2 edit below above ih =>
    refine ih.trans ?_
    simp [Script.SameSides, script]
  | case3 edit below xs above cut hne hstuck => exact .refl _
  -- an edit passes what it has in common with the lines above it
  | case4 edit below xs above cut hne hstuck hall ih =>
    refine ih.trans ?_
    obtain ⟨hEdit, hKeep⟩ := append_cutSuffix edit xs
    change cut.2.1 ++ cut.1 = edit at hEdit
    change cut.2.2 ++ cut.1 = xs at hKeep
    rw [← hEdit, ← hKeep, hall]
    cases kind <;>
      simp [Script.SameSides, script, EditKind.edit, before_keepBelow, after_keepBelow]
  | case5 edit below xs above cut hne hstuck hall ih =>
    refine ih.trans ?_
    obtain ⟨hEdit, hKeep⟩ := append_cutSuffix edit xs
    change cut.2.1 ++ cut.1 = edit at hEdit
    change cut.2.2 ++ cut.1 = xs at hKeep
    rw [← hEdit, ← hKeep]
    cases kind <;>
      simp [Script.SameSides, script, EditKind.edit, before_keepBelow, after_keepBelow]
  | case6 edit below xs above hkind ih =>
    refine ih.trans ?_
    subst hkind
    simp [Script.SameSides, script, EditKind.edit]
  | case7 edit below xs above hkind ih =>
    refine ih.trans ?_
    cases kind
    · exact absurd rfl hkind
    · simp [Script.SameSides, script, EditKind.edit]
  | case8 edit below xs above hkind ih =>
    refine ih.trans ?_
    subst hkind
    simp [Script.SameSides, script, EditKind.edit]
  | case9 edit below xs above hkind ih =>
    refine ih.trans ?_
    cases kind
    · simp [Script.SameSides, script, EditKind.edit]
    · exact absurd rfl hkind

/-- Raising the picked edit keeps both sides. -/
theorem raise_sides (c : Cursor α) : Script.SameSides c.raise.script c.script :=
  shiftUp_sides c.kind c.above c.edit c.below

omit [DecidableEq α] in
/-- The script of the reversed cursor is the script read backwards. -/
theorem script_reversed (c : Cursor α) :
    c.reversed.script = (c.script.map Edit.reversed).reverse := by
  cases c with
  | mk above kind edit below =>
    cases kind <;> simp [script, reversed, EditKind.edit, Edit.reversed]

/-- Lowering the picked edit keeps both sides: it is raising, read backwards. -/
theorem lower_sides (c : Cursor α) : Script.SameSides c.lower.script c.script := by
  obtain ⟨hBefore, hAfter⟩ := raise_sides c.reversed
  rw [script_reversed] at hBefore hAfter
  rw [Script.before_reversed] at hBefore
  rw [Script.after_reversed] at hAfter
  unfold lower
  rw [script_reversed, Script.SameSides, Script.before_reversed, Script.after_reversed, hBefore,
    hAfter, List.reverse_reverse, List.reverse_reverse]
  exact ⟨rfl, rfl⟩

end Cursor

-- ---------------------------------------------------------------------------
-- Compaction
-- ---------------------------------------------------------------------------

omit [DecidableEq α] in
/-- An edit of a kind is the edit that it was read off. -/
theorem edit_of_kind? {e : Edit α} {kind : EditKind} {xs : List α} (h : e.kind? = some (kind, xs)) :
    kind.edit xs = e := by
  cases e <;> simp only [Edit.kind?, Option.some.injEq, Prod.mk.injEq, reduceCtorEq] at h <;>
    (obtain ⟨rfl, rfl⟩ := h; rfl)

/-- The scan over a script keeps both sides, wherever it stops. -/
theorem settle_sides (kind : EditKind) (fuel : Nat) (above below : List (Edit α)) :
    Script.SameSides (settle kind fuel above below) (above.reverse ++ below) := by
  fun_induction settle kind fuel above below with
  | case1 above below => exact .refl _
  | case2 fuel above => rw [List.append_nil]; exact .refl _
  | case3 fuel above e below xs c hkind ih =>
    have hMoved := (Cursor.lower_sides (Cursor.raise ⟨above, kind, xs, below⟩)).trans
      (Cursor.raise_sides ⟨above, kind, xs, below⟩)
    refine ih.trans ?_
    rw [Cursor.script, Cursor.script, edit_of_kind? hkind] at hMoved
    rw [List.reverse_cons, List.append_assoc, List.singleton_append]
    exact hMoved
  | case4 fuel above e below k xs hkind hne ih =>
    rw [List.reverse_cons, List.append_assoc, List.singleton_append] at ih
    exact ih
  | case5 fuel above e below hkind ih =>
    rw [List.reverse_cons, List.append_assoc, List.singleton_append] at ih
    exact ih

/-- Compaction keeps both sides. -/
theorem compact_sides (script : Script α) : Script.SameSides (compact script) script :=
  (settle_sides .insertion _ [] _).trans (settle_sides .deletion _ [] _)

/-- The old side of the script between two sequences is the old one. -/
@[simp] theorem between_before (old new : List α) :
    Script.before (Script.between old new) = old :=
  (compact_sides (align old new)).1.trans (align_sides old new).1

/-- The new side of the script between two sequences is the new one. -/
@[simp] theorem between_after (old new : List α) :
    Script.after (Script.between old new) = new :=
  (compact_sides (align old new)).2.trans (align_sides old new).2

end Galley.Patch
