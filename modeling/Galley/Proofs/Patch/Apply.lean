import Galley.Patch.Apply
import Galley.Proofs.Patch.Hunk

/-!
# Hunks of a script, applied to its old side

Every hunk of a script finds its old side at the place that its header names, so the search for a
place ends at the first candidate. The invariant of the run over the hunks: in front stand lines
that are as in the new text, among them the context after the hunk before; behind them stand the
untouched lines of the old text. Contexts do not overlap because groups are spaced, so no hunk
needs a line that an earlier one has produced.

Main results:

* `hunk_before` / `hunk_after` — the two sides of the hunk of a group.
* `applyHunk_at` — a hunk whose old side stands where its header says is applied there.
* `applyHunks_hunksOf` — the hunks of a script turn its old side into its new side.
-/

namespace Galley.Patch

-- ---------------------------------------------------------------------------
-- Sides of a hunk
-- ---------------------------------------------------------------------------

section sides

variable (xs : List Line)

@[simp] theorem before_context : (xs.map HunkLine.context).flatMap HunkLine.before = xs := by
  induction xs <;> simp_all [HunkLine.before]

@[simp] theorem after_context : (xs.map HunkLine.context).flatMap HunkLine.after = xs := by
  induction xs <;> simp_all [HunkLine.after]

@[simp] theorem before_delete : (xs.map HunkLine.delete).flatMap HunkLine.before = xs := by
  induction xs <;> simp_all [HunkLine.before]

@[simp] theorem after_delete : (xs.map HunkLine.delete).flatMap HunkLine.after = [] := by
  induction xs <;> simp_all [HunkLine.after]

@[simp] theorem before_insert : (xs.map HunkLine.insert).flatMap HunkLine.before = [] := by
  induction xs <;> simp_all [HunkLine.before]

@[simp] theorem after_insert : (xs.map HunkLine.insert).flatMap HunkLine.after = xs := by
  induction xs <;> simp_all [HunkLine.after]

end sides

/-- The lines of further steps, context and deletions, are what was there before. -/
theorem before_continuation (more : List Step) :
    (more.flatMap Step.continuation).flatMap HunkLine.before = more.flatMap Step.before := by
  induction more with
  | nil => rfl
  | cons c cs ih =>
    simp only [List.flatMap_cons, List.flatMap_append, ih]
    simp [Step.continuation, Step.edits, Step.before]

theorem after_continuation (more : List Step) :
    (more.flatMap Step.continuation).flatMap HunkLine.after = more.flatMap Step.after := by
  induction more with
  | nil => rfl
  | cons c cs ih =>
    simp only [List.flatMap_cons, List.flatMap_append, ih]
    simp [Step.continuation, Step.edits, Step.after]

namespace Group

variable (tail : List Line) (oldAt newAt : Nat) (g : Group) (rest : List Group)

/-- The kept lines of a group that its hunk leaves out. -/
def leftOut : List Line := g.1.kept.take g.skipped

/-- The old lines of a group that its hunk shows. -/
def shownBefore : List Line :=
  g.1.kept.drop g.skipped ++ (g.1.removed ++ g.2.flatMap Step.before)

/-- The new lines of a group that its hunk shows. -/
def shownAfter : List Line := g.1.kept.drop g.skipped ++ (g.1.added ++ g.2.flatMap Step.after)

@[simp] theorem length_leftOut : g.leftOut.length = g.skipped := by
  rw [leftOut, List.length_take, skipped]
  omega

/-- Before the change, a group is the lines that its hunk leaves out and the old lines it shows. -/
theorem before_eq : g.before = g.leftOut ++ g.shownBefore := by
  rw [before, leftOut, shownBefore, List.flatMap_cons, Step.before, ← List.append_assoc,
    List.take_append_drop, List.append_assoc]

/-- After the change, a group is the same lines left out and the new lines shown. -/
theorem after_eq : g.after = g.leftOut ++ g.shownAfter := by
  rw [after, leftOut, shownAfter, List.flatMap_cons, Step.after, ← List.append_assoc,
    List.take_append_drop, List.append_assoc]

/-- The old side of the hunk of a group: what it shows of the group, and the context behind it. -/
theorem hunk_before :
    (g.hunk tail oldAt newAt rest).before =
      g.shownBefore ++ (following tail rest).take contextLength := by
  rw [hunk, Hunk.before, hunkLines, shownBefore]
  simp only [List.flatMap_append, before_context, before_continuation, Step.edits, before_delete,
    before_insert, List.nil_append, List.append_assoc]

/-- The new side of the hunk of a group. -/
theorem hunk_after :
    (g.hunk tail oldAt newAt rest).after =
      g.shownAfter ++ (following tail rest).take contextLength := by
  rw [hunk, Hunk.after, hunkLines, shownAfter]
  simp only [List.flatMap_append, after_context, after_continuation, Step.edits, after_delete,
    after_insert, List.nil_append, List.append_assoc]

/-- The hunk of a group shows some of the lines kept in front of its changes, if there are any. -/
theorem kept_eq_nil_of_drop {g : Group} (h : g.1.kept.drop g.skipped = []) : g.1.kept = [] := by
  have hLength := congrArg List.length h
  rw [List.length_drop, skipped, contextLength, List.length_nil] at hLength
  exact List.length_eq_zero_iff.mp (by omega)

/-- A hunk without old lines has no context in front of it. -/
theorem kept_eq_nil_of_hunk_before (h : (g.hunk tail oldAt newAt rest).before = []) :
    g.1.kept = [] := by
  rw [hunk_before, shownBefore, List.append_assoc, List.append_eq_nil_iff] at h
  exact kept_eq_nil_of_drop h.1

theorem kept_eq_nil_of_hunk_after (h : (g.hunk tail oldAt newAt rest).after = []) :
    g.1.kept = [] := by
  rw [hunk_after, shownAfter, List.append_assoc, List.append_eq_nil_iff] at h
  exact kept_eq_nil_of_drop h.1

/-- The new position of a hunk is the number of lines in front of it. -/
theorem newStart_hunk (h : g.1.kept = [] → newAt = 0) :
    (g.hunk tail oldAt newAt rest).newStart - 1 = newAt + g.skipped := by
  show headerStart (newAt + g.skipped) (g.hunk tail oldAt newAt rest).after - 1 = _
  rw [headerStart]
  split
  · next hEmpty =>
    -- no context in front: this is the start of both texts
    have hKept := g.kept_eq_nil_of_hunk_after tail oldAt newAt rest hEmpty
    have hSkipped : g.skipped = 0 := by simp [skipped, hKept]
    have := h hKept
    omega
  · omega

end Group

-- ---------------------------------------------------------------------------
-- Images
-- ---------------------------------------------------------------------------

namespace Image

@[simp] theorem ofLines_append (xs ys : List Line) :
    ofLines (xs ++ ys) = ofLines xs ++ ofLines ys := by
  simp [ofLines]

@[simp] theorem length_ofLines (xs : List Line) : (ofLines xs).length = xs.length := by
  simp [ofLines]

@[simp] theorem toLines_append (x y : Image) : toLines (x ++ y) = toLines x ++ toLines y := by
  simp [toLines]

@[simp] theorem toLines_ofLines (xs : List Line) : toLines (ofLines xs) = xs := by
  induction xs <;> simp_all [toLines, ofLines]

/-- The lines that a hunk has produced. -/
def patched (xs : List Line) : Image := xs.map fun line => ⟨line, true⟩

@[simp] theorem length_patched (xs : List Line) : (patched xs).length = xs.length := by
  simp [patched]

@[simp] theorem toLines_patched (xs : List Line) : toLines (patched xs) = xs := by
  induction xs <;> simp_all [toLines, patched]

/-- Untouched lines match themselves, whatever follows. -/
theorem startsWith_ofLines (xs : List Line) (image : Image) :
    startsWith (ofLines xs ++ image) xs = true := by
  induction xs with
  | nil => cases image <;> rfl
  | cons x xs ih =>
    rw [show ofLines (x :: xs) ++ image = ⟨x, false⟩ :: (ofLines xs ++ image) from rfl, startsWith,
      ih]
    simp

end Image

-- ---------------------------------------------------------------------------
-- Applying
-- ---------------------------------------------------------------------------

/-- **A hunk is applied where its header says** if its old side stands there untouched: this is
the first place that is tried. -/
theorem applyHunk_at (hunk : Hunk) (front rest : Image) (h : hunk.newStart - 1 = front.length) :
    applyHunk (front ++ Image.ofLines hunk.before ++ rest) hunk =
      some (front ++ Image.patched hunk.after ++ rest) := by
  have hStart : min (hunk.newStart - 1) (front ++ Image.ofLines hunk.before ++ rest).length =
      front.length := by
    rw [h]
    simp only [List.length_append]
    omega
  have hLocate : locate (front ++ Image.ofLines hunk.before ++ rest) hunk = some front.length := by
    rw [locate]
    simp only [hStart, candidates]
    rw [List.find?_cons_of_pos]
    rw [List.append_assoc, List.drop_left]
    exact Image.startsWith_ofLines ..
  rw [applyHunk, hLocate]
  simp only [Option.bind_eq_bind, Option.bind_some, Option.pure_def, Option.some.injEq]
  rw [List.append_assoc front, List.take_left, ← List.drop_drop, List.drop_left,
    List.drop_left' (by rw [Image.length_ofLines])]
  rfl

/-- The text behind a group starts with the lines that follow it. -/
theorem source_eq_following (tail : List Line) (gs : List Group) :
    source tail gs = (following tail gs).take contextLength ++
      (source tail gs).drop ((following tail gs).take contextLength).length := by
  have hPrefix : (following tail gs).take contextLength <+: source tail gs := by
    refine (List.take_prefix ..).trans ?_
    cases gs with
    | nil => exact List.prefix_refl _
    | cons g gs =>
      rw [source_cons, Group.before, List.flatMap_cons, Step.before, following, List.append_assoc,
        List.append_assoc]
      exact List.prefix_append ..
  obtain ⟨rest, hrest⟩ := hPrefix
  rw [← hrest, List.drop_left]

/-- The new text of the groups that are left begins with the context behind a hunk. -/
theorem target_eq_following (tail : List Line) (gs : List Group) :
    target tail gs = (following tail gs).take contextLength ++
      (target tail gs).drop ((following tail gs).take contextLength).length := by
  have hPrefix : (following tail gs).take contextLength <+: target tail gs := by
    refine (List.take_prefix ..).trans ?_
    cases gs with
    | nil => exact List.prefix_refl _
    | cons g gs =>
      rw [target_cons, Group.after, List.flatMap_cons, Step.after, following, List.append_assoc,
        List.append_assoc]
      exact List.prefix_append ..
  obtain ⟨rest, hrest⟩ := hPrefix
  rw [← hrest, List.drop_left]

section shown

variable (tail : List Line) (g : Group) (rest : List Group) {shown : Nat}

/-- The old text of groups behind its first `shown` lines: what the hunk of the first group leaves
out of them, its old side, and the text behind that. -/
theorem drop_source_cons (h : shown ≤ g.skipped) :
    (source tail (g :: rest)).drop shown =
      g.leftOut.drop shown ++ (g.shownBefore ++ (following tail rest).take contextLength) ++
        (source tail rest).drop ((following tail rest).take contextLength).length := by
  rw [source_cons, g.before_eq, List.append_assoc,
    List.drop_append_of_le_length (by rw [g.length_leftOut]; exact h),
    source_eq_following tail rest]
  simp

/-- The same of the new text. -/
theorem drop_target_cons (h : shown ≤ g.skipped) :
    (target tail (g :: rest)).drop shown =
      g.leftOut.drop shown ++ (g.shownAfter ++ (following tail rest).take contextLength) ++
        (target tail rest).drop ((following tail rest).take contextLength).length := by
  rw [target_cons, g.after_eq, List.append_assoc,
    List.drop_append_of_le_length (by rw [g.length_leftOut]; exact h),
    target_eq_following tail rest]
  simp

/-- The context that a hunk shows behind its group is not shown again in front of the next one. -/
theorem length_context_le_skipped {next : Group} (h : 2 * contextLength ≤ next.1.kept.length) :
    ((following tail rest).take contextLength).length ≤ next.skipped := by
  have hLength := List.length_take_le contextLength (following tail rest)
  rw [Group.skipped]
  omega

end shown

/-- **The hunks of spaced groups turn their old text into their new text.** `front` are lines as
the new text has them; it covers the first `shown` lines of the groups, which the hunk before has
shown as context. -/
theorem applyHunks_hunksOf (tail : List Line) (gs : List Group) (hSpaced : Spaced gs) :
    ∀ (applied oldAt newAt shown : Nat) (front : Image), front.length = newAt + shown →
      (∀ g ∈ gs.head?, shown ≤ g.skipped ∧ (g.1.kept = [] → newAt = 0)) →
      ∃ image, applyHunks applied (front ++ Image.ofLines ((source tail gs).drop shown))
          (hunksOf tail oldAt newAt gs) = .ok image ∧
        image.toLines = front.toLines ++ (target tail gs).drop shown := by
  induction gs with
  | nil =>
    intro applied oldAt newAt shown front _ _
    exact ⟨_, by rw [hunksOf, applyHunks], by simp⟩
  | cons g rest ih =>
    intro applied oldAt newAt shown front hFront hHead
    -- the hunk is found where it is looked for first, since the lines in front of it are in place
    obtain ⟨hShown, hStart⟩ := hHead g rfl
    have hSource := drop_source_cons tail g rest hShown
    have hTarget := drop_target_cons tail g rest hShown
    have hBefore := g.hunk_before tail oldAt newAt rest
    have hAfter := g.hunk_after tail oldAt newAt rest
    have hBehind : ∀ next ∈ rest.head?,
        2 * contextLength ≤ next.1.kept.length ∧
          ((following tail rest).take contextLength).length ≤ next.skipped := by
      intro next hNext
      have hKept := hSpaced next (List.mem_of_mem_head? hNext)
      exact ⟨hKept, length_context_le_skipped tail rest hKept⟩
    generalize (following tail rest).take contextLength = context at *
    have hAt := applyHunk_at (g.hunk tail oldAt newAt rest)
      (front ++ Image.ofLines (g.leftOut.drop shown))
      (Image.ofLines ((source tail rest).drop context.length)) (by
        rw [g.newStart_hunk tail oldAt newAt rest hStart]
        simp only [List.length_append, Image.length_ofLines, List.length_drop,
          Group.length_leftOut]
        omega)
    rw [hunksOf_cons, applyHunks, hSource, hTarget]
    rw [hBefore, hAfter] at hAt
    simp only [Image.ofLines_append, List.append_assoc] at hAt ⊢
    rw [hAt]
    -- its context behind has been shown already, which is what the next hunk leaves out
    have hRest := ih (fun g' hg' => hSpaced g' (List.mem_of_mem_tail hg')) (applied + 1)
      (oldAt + g.before.length) (newAt + g.after.length) context.length
      (front ++ Image.ofLines (g.leftOut.drop shown) ++ Image.patched (g.shownAfter ++ context))
      (by
        rw [g.after_eq]
        simp only [List.length_append, Image.length_ofLines, List.length_drop,
          Group.length_leftOut, Image.length_patched]
        omega)
      (by
        intro next hNext
        obtain ⟨hKept, hLength⟩ := hBehind next hNext
        refine ⟨hLength, fun hNil => ?_⟩
        rw [hNil, List.length_nil, contextLength] at hKept
        omega)
    obtain ⟨image, hRun, hLines⟩ := hRest
    refine ⟨image, ?_, ?_⟩
    · simpa using hRun
    · rw [hLines]
      simp

/-- **The hunks of steps turn their old text into their new text.** -/
theorem applyHunks_ofScript (script : Script Line) :
    ∃ image,
      applyHunks 0 (Image.ofLines (Script.before script)) (Hunk.ofScript script) = .ok image ∧
      image.toLines = Script.after script := by
  have hSource := source_groups (Steps.ofScript script).tail (Steps.ofScript script).changes
  have hTarget := target_groups (Steps.ofScript script).tail (Steps.ofScript script).changes
  obtain ⟨image, hRun, hLines⟩ := applyHunks_hunksOf (Steps.ofScript script).tail
    (groups (Steps.ofScript script).tail (Steps.ofScript script).changes) (spaced_groups _ _)
    0 0 0 0 [] rfl (fun g _ => ⟨Nat.zero_le _, fun _ => rfl⟩)
  rw [← Steps.ofScript_before, ← Steps.ofScript_after, Steps.before, Steps.after, ← hSource,
    ← hTarget]
  exact ⟨image, hRun, hLines⟩

end Galley.Patch
