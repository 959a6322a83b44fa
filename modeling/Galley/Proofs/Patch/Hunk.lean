import Galley.Patch.Hunk
import Galley.Proofs.Patch.Script

/-!
# The hunks of a script

The steps of a script carry its two sides, and grouping the steps loses nothing, so both sides can
be read off the groups again (`source` and `target`). What a group shows of the lines around its
changes is bounded by what `joins` keeps apart: between two groups at least six lines are kept
(`spaced_groups`), three for the context of either.

Main results:

* `ofScript_before` / `ofScript_after` — the steps of a script have its sides.
* `source_groups` / `target_groups` — so have the groups of the steps.
* `hunksOf_cons` — the hunk of a group: its lines and the two positions of its header.
-/

namespace Galley.Patch

-- ---------------------------------------------------------------------------
-- Sides of steps
-- ---------------------------------------------------------------------------

namespace Step

/-- The old lines of a step. -/
def before (change : Step) : List Line := change.kept ++ change.removed

/-- The new lines of a step. -/
def after (change : Step) : List Line := change.kept ++ change.added

end Step

namespace Steps

/-- The old text of steps. -/
def before (steps : Steps) : List Line := steps.changes.flatMap Step.before ++ steps.tail

/-- The new text of steps. -/
def after (steps : Steps) : List Line := steps.changes.flatMap Step.after ++ steps.tail

/-- Kept lines are in front of the old text. -/
theorem before_keep (xs : List Line) (steps : Steps) :
    (steps.keep xs).before = xs ++ steps.before := by
  obtain ⟨changes, tail⟩ := steps
  cases changes <;> simp [keep, before, Step.before]

/-- They are in front of the new text, too. -/
theorem after_keep (xs : List Line) (steps : Steps) :
    (steps.keep xs).after = xs ++ steps.after := by
  obtain ⟨changes, tail⟩ := steps
  cases changes <;> simp [keep, after, Step.after]

/-- A change in front puts its removed lines in front of the old text, also where it becomes part
of a change that follows directly. -/
theorem before_change (removed added : List Line) (steps : Steps) :
    (steps.change removed added).before = removed ++ steps.before := by
  obtain ⟨changes, tail⟩ := steps
  cases changes with
  | nil => simp [change, before, Step.before]
  | cons c cs =>
    rw [change]
    split
    · next hkept => simp [before, Step.before, hkept]
    · simp [before, Step.before]

theorem after_change (removed added : List Line) (steps : Steps) :
    (steps.change removed added).after = added ++ steps.after := by
  obtain ⟨changes, tail⟩ := steps
  cases changes with
  | nil => simp [change, after, Step.after]
  | cons c cs =>
    rw [change]
    split
    · next hkept => simp [after, Step.after, hkept]
    · simp [after, Step.after]

/-- The steps of a script have its old side. -/
@[simp] theorem ofScript_before (script : Script Line) :
    (ofScript script).before = Script.before script := by
  induction script with
  | nil => rfl
  | cons e rest ih => cases e <;> simp [ofScript, before_keep, before_change, ih]

/-- The steps of a script have its new side. -/
@[simp] theorem ofScript_after (script : Script Line) :
    (ofScript script).after = Script.after script := by
  induction script with
  | nil => rfl
  | cons e rest ih => cases e <;> simp [ofScript, after_keep, after_change, ih]

end Steps

-- ---------------------------------------------------------------------------
-- Sides of groups
-- ---------------------------------------------------------------------------

/-- A group of changes that share a hunk. -/
abbrev Group := Step × List Step

namespace Group

/-- The old lines of a group. -/
def before (g : Group) : List Line := (g.1 :: g.2).flatMap Step.before

/-- The new lines of a group. -/
def after (g : Group) : List Line := (g.1 :: g.2).flatMap Step.after

end Group

/-- The old text of groups and the lines kept after the last of them. -/
def source (tail : List Line) (gs : List Group) : List Line := gs.flatMap Group.before ++ tail

/-- The new text of groups and the lines kept after the last of them. -/
def target (tail : List Line) (gs : List Group) : List Line := gs.flatMap Group.after ++ tail

@[simp] theorem source_nil (tail : List Line) : source tail [] = tail := rfl

@[simp] theorem target_nil (tail : List Line) : target tail [] = tail := rfl

/-- The old text, group by group. -/
theorem source_cons (tail : List Line) (g : Group) (gs : List Group) :
    source tail (g :: gs) = g.before ++ source tail gs := by
  simp [source]

/-- The new text, group by group. -/
theorem target_cons (tail : List Line) (g : Group) (gs : List Group) :
    target tail (g :: gs) = g.after ++ target tail gs := by
  simp [target]

/-- Grouping changes takes no line away from the old text. -/
theorem source_groups (tail : List Line) (changes : List Step) :
    source tail (groups tail changes) = changes.flatMap Step.before ++ tail := by
  fun_induction groups tail changes with
  | case1 => rfl
  | case2 change later hnone ih =>
    rw [hnone, source_nil] at ih
    rw [source_cons, source_nil, List.flatMap_cons, List.append_assoc, ← ih]
    simp [Group.before]
  | case3 change later next more rest hsome hjoins ih =>
    rw [hsome, source_cons] at ih
    rw [source_cons, List.flatMap_cons, List.append_assoc, ← ih]
    simp [Group.before]
  | case4 change later next more rest hsome hjoins ih =>
    rw [hsome] at ih
    rw [source_cons, ih, List.flatMap_cons, List.append_assoc]
    simp [Group.before]

/-- Grouping changes takes no line away from the new text. -/
theorem target_groups (tail : List Line) (changes : List Step) :
    target tail (groups tail changes) = changes.flatMap Step.after ++ tail := by
  fun_induction groups tail changes with
  | case1 => rfl
  | case2 change later hnone ih =>
    rw [hnone, target_nil] at ih
    rw [target_cons, target_nil, List.flatMap_cons, List.append_assoc, ← ih]
    simp [Group.after]
  | case3 change later next more rest hsome hjoins ih =>
    rw [hsome, target_cons] at ih
    rw [target_cons, List.flatMap_cons, List.append_assoc, ← ih]
    simp [Group.after]
  | case4 change later next more rest hsome hjoins ih =>
    rw [hsome] at ih
    rw [target_cons, ih, List.flatMap_cons, List.append_assoc]
    simp [Group.after]

/-- Groups are spaced when every one but the first starts with enough kept lines for the context
of its own hunk and of the hunk before it. -/
def Spaced (gs : List Group) : Prop := ∀ g ∈ gs.tail, 2 * contextLength ≤ g.1.kept.length

/-- A change that does not join the hunk before it keeps at least six lines. -/
theorem le_kept_of_not_joins {change : Step} {later : List Step} {tail : List Line}
    (h : joins change later tail = false) : 2 * contextLength ≤ change.kept.length := by
  rw [joins, Bool.or_eq_false_iff, decide_eq_false_iff_not] at h
  omega

/-- The groups of changes are spaced. -/
theorem spaced_groups (tail : List Line) (changes : List Step) : Spaced (groups tail changes) := by
  fun_induction groups tail changes with
  | case1 => simp [Spaced]
  | case2 => simp [Spaced]
  | case3 change later next more rest hsome hjoins ih =>
    rw [hsome] at ih
    exact ih
  | case4 change later next more rest hsome hjoins ih =>
    rw [hsome] at ih
    intro g hg
    rcases List.mem_cons.mp hg with rfl | hg
    · exact le_kept_of_not_joins (Bool.not_eq_true _ ▸ hjoins)
    · exact ih g hg

-- ---------------------------------------------------------------------------
-- The hunk of a group
-- ---------------------------------------------------------------------------

/-- How many of the kept lines in front of a group its hunk leaves out. -/
def Group.skipped (g : Group) : Nat := g.1.kept.length - contextLength

/-- The kept lines that follow a group: those in front of the next group, or the tail. -/
def following (tail : List Line) : List Group → List Line
  | [] => tail
  | next :: _ => next.1.kept

/-- The lines of the hunk of a group. -/
def Group.hunkLines (tail : List Line) (g : Group) (rest : List Group) : List HunkLine :=
  (g.1.kept.drop g.skipped).map .context ++ g.1.edits ++ g.2.flatMap Step.continuation
    ++ ((following tail rest).take contextLength).map .context

/-- The hunk of a group that comes after `oldAt` old and `newAt` new lines. -/
def Group.hunk (tail : List Line) (oldAt newAt : Nat) (g : Group) (rest : List Group) : Hunk :=
  let lines := g.hunkLines tail rest
  ⟨headerStart (oldAt + g.skipped) (lines.flatMap HunkLine.before),
    headerStart (newAt + g.skipped) (lines.flatMap HunkLine.after), lines⟩

/-- Counting the lines of changes one by one counts them all. -/
theorem foldl_add_length (side : Step → List Line) (changes : List Step) (n : Nat) :
    changes.foldl (fun n c => n + c.kept.length + (side c).length) n =
      n + (changes.flatMap fun c => c.kept ++ side c).length := by
  induction changes generalizing n with
  | nil => simp
  | cons c cs ih =>
    rw [List.foldl_cons, ih]
    simp only [List.flatMap_cons, List.length_append]
    omega

/-- **The hunks of groups**: the hunk of the first one, and those of the others, which come after
its lines. -/
theorem hunksOf_cons (tail : List Line) (oldAt newAt : Nat) (g : Group) (rest : List Group) :
    hunksOf tail oldAt newAt (g :: rest) =
      g.hunk tail oldAt newAt rest ::
        hunksOf tail (oldAt + g.before.length) (newAt + g.after.length) rest := by
  obtain ⟨first, more⟩ := g
  cases rest <;>
    (rw [hunksOf.eq_def]
     simp only [foldl_add_length, Nat.zero_add]
     rfl)

end Galley.Patch
