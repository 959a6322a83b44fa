import Galley.Failure
import Galley.Proofs.Except
import Galley.Proofs.Patch.Piece
import Galley.Proofs.Patch.RoundTrip

/-!
# Patches on other texts

A patch is made from one text and may be applied to another. What happens then is told by the pieces
of the other text: every hunk takes a block of it that is equal to its old side, the blocks have no
line in common, and all other lines stay as they are and where they are. If the old side of some
hunk is not to be found, nothing is changed.

In a text that goes on in front of the old text or behind it, each hunk has its place. If its old
side occurs nowhere else, the search finds that place, wherever it starts, so the patch makes the
same change in the midst of the other lines.

Main results:

* `exists_plan` — the hunks between two texts have their places in the old one.
* `apply_diff_eq` — a patch is applied by applying its hunks.
* `apply_diff_elsewhere` — what a patch makes of any text.
* `apply_diff_around` — a patch applied to a text that holds the old text.
-/

namespace Galley.Patch

/-- The hunks of a patch; a text that is no patch has none. -/
def hunksIn (patch : String) : List Hunk := (read patch.toList).toOption.getD []

-- ---------------------------------------------------------------------------
-- The hunks of groups
-- ---------------------------------------------------------------------------

/-- A hunk with kept lines in front of its changes expects some line. -/
theorem before_ne_nil_of_kept {tail : List Line} {gs : List Group} (h : ∀ g ∈ gs, g.1.kept ≠ []) :
    ∀ (oldAt newAt : Nat), ∀ hunk ∈ hunksOf tail oldAt newAt gs, hunk.before ≠ [] := by
  induction gs with
  | nil =>
    intro oldAt newAt hunk hHunk
    rw [hunksOf] at hHunk
    cases hHunk
  | cons g rest ih =>
    intro oldAt newAt hunk hHunk
    obtain ⟨hFirst, hRest⟩ := List.forall_mem_cons.mp h
    rw [hunksOf_cons] at hHunk
    rcases List.mem_cons.mp hHunk with rfl | hHunk
    · exact fun hNil => hFirst (g.kept_eq_nil_of_hunk_before tail oldAt newAt rest hNil)
    · exact ih hRest _ _ hunk hHunk

theorem kept_ne_nil_of_spaced {g : Group} (h : 2 * contextLength ≤ g.1.kept.length) :
    g.1.kept ≠ [] := by
  intro hNil
  rw [hNil, contextLength] at h
  cases h

/-- The hunks of spaced groups have context between them. -/
theorem anchored_hunksOf (tail : List Line) {gs : List Group} (hSpaced : Spaced gs) :
    ∀ oldAt newAt : Nat, Anchored (hunksOf tail oldAt newAt gs) := by
  induction gs with
  | nil =>
    intro oldAt newAt
    rw [hunksOf]
    exact ⟨fun _ h => absurd h List.not_mem_nil, fun _ h => absurd h List.not_mem_nil⟩
  | cons g rest ih =>
    intro oldAt newAt
    have hRest := ih (fun g' hg' => hSpaced g' (List.mem_of_mem_tail hg'))
      (oldAt + g.before.length) (newAt + g.after.length)
    rw [hunksOf_cons]
    refine ⟨before_ne_nil_of_kept (fun g' hg' => kept_ne_nil_of_spaced (hSpaced g' hg')) _ _, ?_⟩
    cases rest with
    | nil =>
      rw [hunksOf]
      exact fun _ h => absurd h List.not_mem_nil
    | cons next more =>
      rw [hunksOf_cons] at hRest ⊢
      rw [List.dropLast_cons_of_ne_nil (List.cons_ne_nil _ _)]
      refine List.forall_mem_cons.mpr ⟨fun hNil => ?_, hRest.after⟩
      -- the lines kept in front of the next group are context behind this one
      have hKept := kept_ne_nil_of_spaced (hSpaced next List.mem_cons_self)
      rw [g.hunk_after, List.append_eq_nil_iff, following, List.take_eq_nil_iff] at hNil
      exact hNil.2.elim (fun hZero => absurd hZero (by decide)) hKept

/-- **The hunks of spaced groups have their places** in the old text of the groups, in order. The
first `shown` lines of it are left out: the hunk before has shown them as context. -/
theorem exists_plan_hunksOf (tail : List Line) {gs : List Group} (hSpaced : Spaced gs) :
    ∀ oldAt newAt shown : Nat, (∀ g ∈ gs.head?, shown ≤ g.skipped) →
      ∃ plan : List Piece, plan.filterMap Piece.hunk? = hunksOf tail oldAt newAt gs ∧
        plan.flatMap Piece.before = (source tail gs).drop shown ∧
        plan.flatMap Piece.after = (target tail gs).drop shown := by
  induction gs with
  | nil =>
    intro oldAt newAt shown _
    rw [hunksOf]
    exact ⟨(tail.drop shown).map .kept, hunks_kept _, before_kept _, after_kept _⟩
  | cons g rest ih =>
    intro oldAt newAt shown hHead
    have hShown := hHead g rfl
    obtain ⟨plan, hHunks, hBefore, hAfter⟩ := ih
      (fun g' hg' => hSpaced g' (List.mem_of_mem_tail hg'))
      (oldAt + g.before.length) (newAt + g.after.length)
      ((following tail rest).take contextLength).length
      (fun next hNext => length_context_le_skipped tail rest
        (hSpaced next (List.mem_of_mem_head? hNext)))
    -- the lines in front of the hunk, less those shown before, and then the hunk
    refine ⟨(g.leftOut.drop shown).map .kept ++
      .changed (g.hunk tail oldAt newAt rest) :: plan, ?_, ?_, ?_⟩
    · rw [List.filterMap_append, hunks_kept, List.nil_append, hunksOf_cons, ← hHunks]
      rfl
    · rw [List.flatMap_append, before_kept, List.flatMap_cons, hBefore, Piece.before,
        g.hunk_before, drop_source_cons tail g rest hShown]
      simp only [List.append_assoc]
    · rw [List.flatMap_append, after_kept, List.flatMap_cons, hAfter, Piece.after,
        g.hunk_after, drop_target_cons tail g rest hShown]
      simp only [List.append_assoc]

-- ---------------------------------------------------------------------------
-- The hunks between two texts
-- ---------------------------------------------------------------------------

/-- The empty text is the patch without hunks. -/
theorem read_nil : read [] = .ok [] := by
  have hNames : readNames false false ((Text.lines []).dropWhile (!startsPatch ·)) = .ok [] := rfl
  rw [read, hNames]
  show (readHunks [] >>= fun hunks => if inOrder hunks then _ else _) = _
  rw [readHunks]
  rfl

section between

variable {old new : String} (hOld : Text.byteLength old.toList < Word.values64)
  (hNew : Text.byteLength new.toList < Word.values64)

include hOld hNew

/-- The patch between two texts is read as what `hunksIn` gives. -/
theorem read_diff : read (diff old new).toList = .ok (hunksIn (diff old new)) ∧
    (hunksIn (diff old new) = if old = new then [] else hunksBetween old.toList new.toList) := by
  have hOldLines := Nat.lt_of_le_of_lt (Text.length_lines_le_byteLength old.toList) hOld
  have hNewLines := Nat.lt_of_le_of_lt (Text.length_lines_le_byteLength new.toList) hNew
  have hRead : read (diff old new).toList =
      .ok (if old = new then [] else hunksBetween old.toList new.toList) := by
    rw [diff, String.toList_ofList, diffChars]
    simp only [String.toList_inj]
    split
    · exact read_nil
    · exact read_print_hunksBetween hOldLines hNewLines
  rw [hunksIn, hRead]
  exact ⟨rfl, rfl⟩

/-- **The hunks between two texts have their places** in the old text: with each of them in place of
its old side it is the new text. -/
theorem exists_plan : ∃ plan : List Piece,
    plan.filterMap Piece.hunk? = hunksIn (diff old new) ∧
      plan.flatMap Piece.before = Text.lines old.toList ∧
      plan.flatMap Piece.after = Text.lines new.toList := by
  rw [(read_diff hOld hNew).2]
  split
  · next hSame =>
    subst hSame
    exact ⟨(Text.lines old.toList).map .kept, hunks_kept _, before_kept _, after_kept _⟩
  · let steps := Steps.ofScript (Script.between (Text.lines old.toList) (Text.lines new.toList))
    have hSource := source_groups steps.tail steps.changes
    have hTarget := target_groups steps.tail steps.changes
    rw [← Steps.before, Steps.ofScript_before, between_before] at hSource
    rw [← Steps.after, Steps.ofScript_after, between_after] at hTarget
    rw [← hSource, ← hTarget]
    exact exists_plan_hunksOf steps.tail (spaced_groups _ _) 0 0 0 fun g _ => Nat.zero_le _

/-- The hunks between two texts have context between them. -/
theorem anchored_diff : Anchored (hunksIn (diff old new)) := by
  rw [(read_diff hOld hNew).2]
  split
  · exact ⟨fun _ h => absurd h List.not_mem_nil, fun _ h => absurd h List.not_mem_nil⟩
  · exact anchored_hunksOf _ (spaced_groups _ _) 0 0

/-- **A patch is applied by applying its hunks.** -/
theorem apply_diff_eq (text : String) : apply text (diff old new) =
    match applyHunks 0 (imageOf ((Text.lines text.toList).map .kept)) (hunksIn (diff old new)) with
    | .ok image => .ok (String.ofList image.toLines.flatten)
    | .error hunk => .error (.doesNotApply hunk) := by
  obtain ⟨hRead, hHunks⟩ := read_diff hOld hNew
  rw [apply, applyChars, imageOf_kept]
  split
  · next hNil =>
    have hSame : old = new := (diff_eq_empty_iff old new).mp (String.toList_inj.mp hNil)
    rw [hHunks, if_pos hSame]
    simp [applyHunks, Except.map]
  · rw [hRead]
    dsimp only
    cases applyHunks 0 (Image.ofLines (Text.lines text.toList)) (hunksIn (diff old new)) <;> rfl

end between

-- ---------------------------------------------------------------------------
-- Any text
-- ---------------------------------------------------------------------------

/-- **What a patch makes of any text.** The hunks of the patch are those that it is read as. If it
applies, the text falls into pieces, of which each hunk has one: a block equal to its old side, in
place of which its new side is put; all other lines are kept. If the old side of a hunk occurs
nowhere in the text, the patch does not apply, which is told as a corrupt patch. -/
theorem apply_diff_elsewhere (old new other : String)
    (hOld : Text.byteLength old.toList < Word.values64)
    (hNew : Text.byteLength new.toList < Word.values64) :
    read (diff old new).toList = .ok (hunksIn (diff old new)) ∧
      (∀ text, apply other (diff old new) = .ok text →
        ∃ pieces : List Piece, (pieces.filterMap Piece.hunk?).Perm (hunksIn (diff old new)) ∧
          pieces.flatMap Piece.before = Text.lines other.toList ∧
          (pieces.flatMap Piece.after).flatten = text.toList) ∧
      ((∃ hunk ∈ hunksIn (diff old new),
          Text.OccursNowhere hunk.before (Text.lines other.toList)) →
        ∃ cause, apply other (diff old new) = .error cause ∧
          (Galley.Failure.patch cause).code = .corruptPatch) := by
  have hPieces : ∀ text, apply other (diff old new) = .ok text →
      ∃ pieces : List Piece, (pieces.filterMap Piece.hunk?).Perm (hunksIn (diff old new)) ∧
        pieces.flatMap Piece.before = Text.lines other.toList ∧
        (pieces.flatMap Piece.after).flatten = text.toList := by
    intro text hText
    rw [apply_diff_eq hOld hNew] at hText
    split at hText
    · next image hRun =>
      cases hText
      have hKept : ∀ p ∈ (Text.lines other.toList).map Piece.kept, p.hunk? = none := by
        intro p hp
        obtain ⟨line, -, rfl⟩ := List.mem_map.mp hp
        rfl
      obtain ⟨pieces, rfl, hBefore, hHunks⟩ := applyHunks_ok (anchored_diff hOld hNew)
        (fun _ p hp => (shown_of_mem_kept p hp).2) (fun _ _ _ => hKept) hRun
      rw [hunks_kept, List.nil_append] at hHunks
      rw [before_kept] at hBefore
      exact ⟨pieces, hHunks, hBefore, by rw [toLines_imageOf, String.toList_ofList]⟩
    · cases hText
  refine ⟨(read_diff hOld hNew).1, hPieces, ?_⟩
  rintro ⟨hunk, hHunk, hNowhere⟩
  cases hApplied : apply other (diff old new) with
  | error cause => exact ⟨cause, rfl, rfl⟩
  | ok text =>
    obtain ⟨pieces, hHunks, hBefore, -⟩ := hPieces text hApplied
    obtain ⟨p, hp, hChanged⟩ := List.mem_filterMap.mp (hHunks.mem_iff.mpr hHunk)
    -- if the patch went through, its hunk would be one of the pieces of the text
    obtain ⟨front, back, rfl⟩ := List.append_of_mem hp
    have hBlock : p.before = hunk.before := by
      cases p with
      | kept line => cases hChanged
      | changed _ =>
        cases hChanged
        rfl
    rw [List.flatMap_append, List.flatMap_cons, hBlock, ← List.append_assoc] at hBefore
    exact absurd hBefore.symm (hNowhere.ne _ _)

/-- Two hunks, applied to a text in which their blocks stand in the other order. -/
theorem apply_diff_elsewhere_of_swapped :
    let old := "b\n1\n2\n3\n4\n5\n6\nd\n"
    let new := "B\n1\n2\n3\n4\n5\n6\nD\nd\n"
    let other := "4\n5\n6\nd\nx\nb\n1\n2\n3"
    Text.byteLength old.toList < Word.values64 ∧ Text.byteLength new.toList < Word.values64 ∧
      apply (other ++ "\n") (diff old new) = .ok "4\n5\n6\nD\nd\nx\nB\n1\n2\n3\n" ∧
      (∃ pieces : List Piece, (pieces.filterMap Piece.hunk?).Perm (hunksIn (diff old new)) ∧
        pieces.flatMap Piece.before = Text.lines (other ++ "\n").toList ∧
        (pieces.flatMap Piece.after).flatten =
          "4\n5\n6\nD\nd\nx\nB\n1\n2\n3\n".toList) ∧
      ∃ cause, apply other (diff old new) = .error cause ∧
        (Galley.Failure.patch cause).code = .corruptPatch := by
  intro old new other
  have hOld : Text.byteLength old.toList < Word.values64 := by decide
  have hNew : Text.byteLength new.toList < Word.values64 := by decide
  have hApplied : apply (other ++ "\n") (diff old new) =
      .ok "4\n5\n6\nD\nd\nx\nB\n1\n2\n3\n" := toOption_eq_some.mp (by decide +kernel)
  have hNowhere : ∃ hunk ∈ hunksIn (diff old new),
      Text.OccursNowhere hunk.before (Text.lines other.toList) := by decide +kernel
  exact ⟨hOld, hNew, hApplied,
    (apply_diff_elsewhere old new _ hOld hNew).2.1 _ hApplied,
    (apply_diff_elsewhere old new other hOld hNew).2.2 hNowhere⟩

-- ---------------------------------------------------------------------------
-- A text around the old one
-- ---------------------------------------------------------------------------

/-- The lines of a text that is put together of three, if the first two end with their lines. -/
theorem lines_around {front old back : String}
    (hFront : front = "" ∨ Text.endsWithNewline front.toList = true)
    (hBack : Text.endsWithNewline old.toList = true ∨ back = "") :
    Text.lines (front ++ old ++ back).toList =
      Text.lines front.toList ++ (Text.lines old.toList ++ Text.lines back.toList) := by
  have hRest : Text.lines (old.toList ++ back.toList) =
      Text.lines old.toList ++ Text.lines back.toList := by
    rcases hBack with hEnds | rfl
    · exact Text.lines_append_of_endsWithNewline hEnds _
    · simp [Text.lines]
  rw [String.toList_append, String.toList_append, List.append_assoc, ← hRest]
  rcases hFront with rfl | hEnds
  · rfl
  · exact Text.lines_append_of_endsWithNewline hEnds _

/-- **A patch applied to a text that holds the old text.** The lines in front of the old text are
whole, and so is its last line unless it is the end. If the old side of each hunk occurs once in the
whole text, the patch makes the new text of the old one and leaves the lines around it alone. -/
theorem apply_diff_around (front old new back : String)
    (hOld : Text.byteLength old.toList < Word.values64)
    (hNew : Text.byteLength new.toList < Word.values64)
    (hFront : front = "" ∨ Text.endsWithNewline front.toList = true) (hSome : old ≠ "")
    (hBack : Text.endsWithNewline old.toList = true ∨ back = "")
    (hOnce : ∀ hunk ∈ hunksIn (diff old new),
      Text.OccursOnce hunk.before (Text.lines (front ++ old ++ back).toList)) :
    apply (front ++ old ++ back) (diff old new) = .ok (front ++ new ++ back) := by
  obtain ⟨plan, hHunks, hBefore, hAfter⟩ := exists_plan hOld hNew
  have hLines := lines_around hFront hBack
  -- the hunks have to find the places that the plan has for them, behind `front`
  let pieces := plan ++ (Text.lines back.toList).map .kept
  have hPieces : pieces.filterMap Piece.hunk? = hunksIn (diff old new) := by
    rw [List.filterMap_append, hunks_kept, List.append_nil, hHunks]
  have hText : Text.lines (front ++ old ++ back).toList =
      ((Text.lines front.toList).map Piece.kept ++ pieces).flatMap Piece.before := by
    rw [hLines, List.flatMap_append, List.flatMap_append, before_kept, before_kept, hBefore]
  have hUndone : (Text.lines (front ++ old ++ back).toList).map Piece.kept =
      (Text.lines front.toList).map .kept ++ pieces.flatMap Piece.undone := by
    rw [undone_eq, hLines, List.map_append, List.flatMap_append, before_kept, hBefore]
  have hShown : ∀ p ∈ (Text.lines front.toList).map .kept ++ pieces, p.before ≠ [] := by
    intro p hp
    cases p with
    | kept line => exact List.cons_ne_nil _ _
    | changed hunk =>
      have hHunk : hunk ∈ hunksIn (diff old new) := by
        rw [← hPieces, ← List.nil_append (pieces.filterMap _), ← hunks_kept,
          ← List.filterMap_append]
        exact List.mem_filterMap.mpr ⟨_, hp, rfl⟩
      refine (hOnce hunk hHunk).ne_nil fun hNil => hSome ?_
      rw [hLines, List.append_eq_nil_iff, List.append_eq_nil_iff] at hNil
      rw [← String.toList_inj, ← Text.flatten_lines old.toList, hNil.2.1]
      rfl
  have hRun := @applyHunks_planned _ _ 0 _ hText hShown
    (fun _ p hp => (shown_of_mem_kept p hp).2)
    (by rw [hPieces]; exact (anchored_diff hOld hNew).after) (by rw [hPieces]; exact hOnce)
  rw [hPieces, ← hUndone] at hRun
  rw [apply_diff_eq hOld hNew, hRun]
  simp only [toLines_imageOf, pieces, List.flatMap_append, after_kept, hAfter, List.flatten_append,
    Text.flatten_lines, String.ofList_append, String.ofList_toList, String.append_assoc]

/-- Two hunks, each three lines further down than its header says. -/
theorem apply_diff_around_of_shifted :
    let front := "0\n0\n0\n"
    let old := "b\n1\n2\n3\n4\n5\n6\nd\n"
    let new := "B\n1\n2\n3\n4\n5\n6\nD\nd\n"
    Text.byteLength old.toList < Word.values64 ∧ Text.byteLength new.toList < Word.values64 ∧
      Text.endsWithNewline front.toList = true ∧ old ≠ "" ∧
      Text.endsWithNewline old.toList = true ∧
      (∀ hunk ∈ hunksIn (diff old new),
        Text.OccursOnce hunk.before (Text.lines (front ++ old ++ "e").toList)) ∧
      apply (front ++ old ++ "e") (diff old new) = .ok (front ++ new ++ "e") := by
  intro front old new
  have hOld : Text.byteLength old.toList < Word.values64 := by decide
  have hNew : Text.byteLength new.toList < Word.values64 := by decide
  have hFront : Text.endsWithNewline front.toList = true := by decide
  have hSome : old ≠ "" := by decide
  have hBack : Text.endsWithNewline old.toList = true := by decide
  have hOnce : ∀ hunk ∈ hunksIn (diff old new),
      Text.OccursOnce hunk.before (Text.lines (front ++ old ++ "e").toList) := by decide +kernel
  exact ⟨hOld, hNew, hFront, hSome, hBack, hOnce,
    apply_diff_around front old new "e" hOld hNew (.inr hFront) hSome (.inl hBack) hOnce⟩

end Galley.Patch
