import Galley.Patch
import Galley.Proofs.Patch.Apply
import Galley.Proofs.Patch.Written

/-!
# Patches round trip

The patch from one text to another, applied to the first, gives the second. Three laws meet here:
the script between the lines of two texts has these lines as its sides, its hunks turn the one into
the other, and their written form is read back. What is left to show is that the hunks of a script
can be written at all: their sides are stretches of the two texts, and they come in order without
overlapping, because the lines kept between two groups cover the context of both.

Headers hold words of 64 bits, so the texts must not have more lines than such a word counts. A
text whose length in bytes is a word of 64 bits has not.

Main results:

* `readable_ofScript` / `inOrder_ofScript` — the hunks of a script can be read back.
* `applyChars_diffChars` — the round trip on lists of characters.
* `apply_diff_roundTrip` — the round trip, and when a patch is empty.
-/

namespace Galley.Patch

-- ---------------------------------------------------------------------------
-- Hunks of groups are readable
-- ---------------------------------------------------------------------------

/-- A position is followed by the lines of its side. -/
theorem headerStart_le (skipped : Nat) (side : List Line) :
    headerStart skipped side ≤ skipped + side.length := by
  rw [headerStart]
  split
  · omega
  · next hne =>
    have := List.length_pos_iff.mpr hne
    omega

/-- The hunks of groups are readable: behind `oldFront` and `newFront` the groups spell the rest of
two texts that are short enough. -/
theorem readable_hunksOf (tail : List Line) (gs : List Group) :
    ∀ oldFront newFront : List Line,
      Text.AreLines (oldFront ++ source tail gs) → Text.AreLines (newFront ++ target tail gs) →
      (oldFront ++ source tail gs).length < Word.values64 →
      (newFront ++ target tail gs).length < Word.values64 →
      ∀ hunk ∈ hunksOf tail oldFront.length newFront.length gs, hunk.Readable := by
  induction gs with
  | nil =>
    intro oldFront newFront _ _ _ _ hunk hHunk
    rw [hunksOf] at hHunk
    exact absurd hHunk List.not_mem_nil
  | cons g rest ih =>
    intro oldFront newFront hOld hNew hOldLength hNewLength hunk hHunk
    rw [hunksOf_cons] at hHunk
    rw [source_cons] at hOld hOldLength
    rw [target_cons] at hNew hNewLength
    rcases List.mem_cons.mp hHunk with rfl | hHunk
    · have hBefore := g.hunk_before tail oldFront.length newFront.length rest
      have hAfter := g.hunk_after tail oldFront.length newFront.length rest
      rw [g.before_eq, source_eq_following tail rest] at hOld hOldLength
      rw [g.after_eq, target_eq_following tail rest] at hNew hNewLength
      generalize (following tail rest).take contextLength = context at *
      -- both sides are stretches of the texts, behind what is left out
      have hOldInfix : (g.hunk tail oldFront.length newFront.length rest).before <:+: oldFront ++
          (g.leftOut ++ g.shownBefore ++ (context ++ (source tail rest).drop context.length)) :=
        ⟨oldFront ++ g.leftOut, (source tail rest).drop context.length, by simp [hBefore]⟩
      have hNewInfix : (g.hunk tail oldFront.length newFront.length rest).after <:+: newFront ++
          (g.leftOut ++ g.shownAfter ++ (context ++ (target tail rest).drop context.length)) :=
        ⟨newFront ++ g.leftOut, (target tail rest).drop context.length, by simp [hAfter]⟩
      have hOldStart := headerStart_le (oldFront.length + g.skipped)
        (g.hunk tail oldFront.length newFront.length rest).before
      have hNewStart := headerStart_le (newFront.length + g.skipped)
        (g.hunk tail oldFront.length newFront.length rest).after
      refine ⟨hOld.of_infix hOldInfix, hNew.of_infix hNewInfix, ?_⟩
      simp only [List.length_append, Group.length_leftOut] at hOldLength hNewLength
      rw [hBefore, List.length_append] at hOldStart
      rw [hAfter, List.length_append] at hNewStart
      refine ⟨?_, ?_, ?_, ?_⟩
      · refine Nat.lt_of_le_of_lt (Nat.le_trans ?_ hOldStart) (by omega)
        rw [← hBefore]
        exact Nat.le_refl _
      · rw [hBefore, List.length_append]
        omega
      · refine Nat.lt_of_le_of_lt (Nat.le_trans ?_ hNewStart) (by omega)
        rw [← hAfter]
        exact Nat.le_refl _
      · rw [hAfter, List.length_append]
        omega
    · rw [← List.length_append, ← List.length_append] at hHunk
      rw [← List.append_assoc] at hOld hNew hOldLength hNewLength
      exact ih _ _ hOld hNew hOldLength hNewLength hunk hHunk

/-- A side that starts behind another one is named by a later line number. -/
theorem rangeEnd_le_headerStart {skipped skipped' : Nat} {side side' : List Line}
    (hne : side' ≠ []) (h : skipped + side.length ≤ skipped') :
    rangeEnd (headerStart skipped side) side.length ≤ headerStart skipped' side' := by
  have hMod : rangeEnd (headerStart skipped side) side.length ≤
      headerStart skipped side + side.length := Nat.mod_le ..
  have hStart : headerStart skipped side ≤ skipped + 1 := by
    rw [headerStart]
    split <;> omega
  have hStart' : headerStart skipped' side' = skipped' + 1 := by
    rw [headerStart, if_neg hne]
  omega

/-- No hunk of spaced groups starts before the end of the one above it: between the two at least
six lines are kept, and each shows three of them. -/
theorem inOrder_hunksOf (tail : List Line) (gs : List Group) (hSpaced : Spaced gs) :
    ∀ oldAt newAt : Nat, inOrder (hunksOf tail oldAt newAt gs) = true := by
  induction gs with
  | nil =>
    intro oldAt newAt
    rw [hunksOf]
    rfl
  | cons g rest ih =>
    intro oldAt newAt
    have ihRest := ih (fun g' hg' => hSpaced g' (List.mem_of_mem_tail hg'))
      (oldAt + g.before.length) (newAt + g.after.length)
    rw [hunksOf_cons]
    cases rest with
    | nil =>
      rw [hunksOf]
      rfl
    | cons next more =>
      rw [hunksOf_cons] at ihRest ⊢
      have hKept := hSpaced next (List.mem_cons_self ..)
      have hKeptNe : next.1.kept ≠ [] := by
        intro hNil
        rw [hNil, contextLength] at hKept
        exact absurd hKept (by decide)
      -- two hunks are so far apart that the context of the first ends before the second
      have hContext : ((following tail (next :: more)).take contextLength).length ≤
          next.skipped := by
        rw [List.length_take, Group.skipped]
        omega
      have hBefore := congrArg List.length (g.hunk_before tail oldAt newAt (next :: more))
      have hAfter := congrArg List.length (g.hunk_after tail oldAt newAt (next :: more))
      have hOld := congrArg List.length g.before_eq
      have hNew := congrArg List.length g.after_eq
      rw [List.length_append] at hBefore hAfter hOld hNew
      rw [g.length_leftOut] at hOld hNew
      rw [inOrder, Bool.and_eq_true, Bool.and_eq_true, decide_eq_true_eq, decide_eq_true_eq]
      refine ⟨⟨rangeEnd_le_headerStart ?_ ?_, rangeEnd_le_headerStart ?_ ?_⟩, ihRest⟩
      · exact fun hNil => hKeptNe (next.kept_eq_nil_of_hunk_before tail (oldAt + g.before.length)
          (newAt + g.after.length) more hNil)
      · show oldAt + g.skipped + (g.hunk tail oldAt newAt (next :: more)).before.length ≤ _
        omega
      · exact fun hNil => hKeptNe (next.kept_eq_nil_of_hunk_after tail (oldAt + g.before.length)
          (newAt + g.after.length) more hNil)
      · show newAt + g.skipped + (g.hunk tail oldAt newAt (next :: more)).after.length ≤ _
        omega

-- ---------------------------------------------------------------------------
-- The round trip
-- ---------------------------------------------------------------------------

/-- The hunks of a script between the lines of two texts can be read back. -/
theorem readable_ofScript {script : Script Line} (hOld : Text.AreLines (Script.before script))
    (hNew : Text.AreLines (Script.after script))
    (hOldLength : (Script.before script).length < Word.values64)
    (hNewLength : (Script.after script).length < Word.values64) :
    ∀ hunk ∈ Hunk.ofScript script, hunk.Readable := by
  have hSource := source_groups (Steps.ofScript script).tail (Steps.ofScript script).changes
  have hTarget := target_groups (Steps.ofScript script).tail (Steps.ofScript script).changes
  rw [← Steps.before, Steps.ofScript_before] at hSource
  rw [← Steps.after, Steps.ofScript_after] at hTarget
  rw [← hSource] at hOld hOldLength
  rw [← hTarget] at hNew hNewLength
  exact readable_hunksOf _ _ [] [] hOld hNew hOldLength hNewLength

/-- The hunks of a script do not overlap. -/
theorem inOrder_ofScript (script : Script Line) : inOrder (Hunk.ofScript script) = true :=
  inOrder_hunksOf _ _ (spaced_groups _ _) 0 0

/-- The patch between two texts is read back to the hunks between them. -/
theorem read_print_hunksBetween {old new : List Char}
    (hOld : (Text.lines old).length < Word.values64)
    (hNew : (Text.lines new).length < Word.values64) :
    read (print (hunksBetween old new)) = .ok (hunksBetween old new) := by
  have hBefore := between_before (Text.lines old) (Text.lines new)
  have hAfter := between_after (Text.lines old) (Text.lines new)
  refine read_print _ (readable_ofScript ?_ ?_ ?_ ?_) (inOrder_ofScript _)
  · rw [hBefore]
    exact Text.areLines_lines old
  · rw [hAfter]
    exact Text.areLines_lines new
  · rw [hBefore]
    exact hOld
  · rw [hAfter]
    exact hNew

/-- **The round trip**, on the characters of texts whose lines a word of 64 bits counts. -/
theorem applyChars_diffChars {old new : List Char}
    (hOld : (Text.lines old).length < Word.values64)
    (hNew : (Text.lines new).length < Word.values64) :
    applyChars old (diffChars old new) = .ok new := by
  rw [diffChars]
  split
  · next hEq => rw [applyChars, if_pos rfl, hEq]
  · obtain ⟨image, hRun, hLines⟩ :=
      applyHunks_ofScript (Script.between (Text.lines old) (Text.lines new))
    rw [between_before] at hRun
    rw [between_after] at hLines
    rw [applyChars, if_neg (print_ne_nil _), read_print_hunksBetween hOld hNew]
    have hApplied : applyHunks 0 (Image.ofLines (Text.lines old)) (hunksBetween old new) =
        .ok image := hRun
    simp only [hApplied, hLines, Text.flatten_lines]

/-- The patch is empty exactly when the texts are equal. -/
theorem diffChars_eq_nil_iff (old new : List Char) : diffChars old new = [] ↔ old = new := by
  rw [diffChars]
  split
  · next hEq => simp [hEq]
  · next hne => simp [print_ne_nil, hne]

/-- The patch from one text to another turns the first into the second. -/
theorem apply_diff {old new : String} (hOld : Text.byteLength old.toList < Word.values64)
    (hNew : Text.byteLength new.toList < Word.values64) : apply old (diff old new) = .ok new := by
  have hOldLines := Nat.lt_of_le_of_lt (Text.length_lines_le_byteLength old.toList) hOld
  have hNewLines := Nat.lt_of_le_of_lt (Text.length_lines_le_byteLength new.toList) hNew
  rw [apply, diff, String.toList_ofList, applyChars_diffChars hOldLines hNewLines, Except.map,
    String.ofList_toList]

/-- **A patch is empty** just for equal texts. -/
theorem diff_eq_empty_iff (old new : String) : diff old new = "" ↔ old = new := by
  rw [diff, ← String.toList_inj, String.toList_ofList, ← String.toList_inj]
  exact diffChars_eq_nil_iff old.toList new.toList

/-- **The round trip**: the patch from one text to another turns the first into the second, and it
is empty exactly when they are equal. The lengths of the texts in bytes are words of 64 bits, as
those of all texts in memory are. -/
theorem apply_diff_roundTrip (old new : String)
    (hOld : Text.byteLength old.toList < Word.values64)
    (hNew : Text.byteLength new.toList < Word.values64) :
    apply old (diff old new) = .ok new ∧ (diff old new = "" ↔ old = new) :=
  ⟨apply_diff hOld hNew, diff_eq_empty_iff old new⟩

/-- Lines that look like those of a patch, a blank line in the context, and a last line that loses
its newline. -/
theorem apply_diff_of_patch_like_lines :
    let old := "@@ -1 +1 @@\n\n--- a\n"
    let new := "@@ -1 +1 @@\n\n+++ b\n\\ No newline"
    Text.byteLength old.toList < Word.values64 ∧ Text.byteLength new.toList < Word.values64 ∧
      apply old (diff old new) = .ok new ∧ (diff old new = "" ↔ old = new) :=
  ⟨by decide, by decide, apply_diff_roundTrip _ _ (by decide) (by decide)⟩

end Galley.Patch
