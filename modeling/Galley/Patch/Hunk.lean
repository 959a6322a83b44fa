import Galley.Text.Line
import Galley.Patch.Script

/-!
# Hunks

A *hunk* is a local change of a text: lines to delete and to insert, between lines of context that
stay. Its old side (`Hunk.before`) is what it expects to find and its new side (`Hunk.after`) what
it leaves behind.

The hunks of an edit script (`Hunk.ofScript`) are cut from its *steps*: the lines kept since the
change before, then the lines removed and added. Each hunk shows up to three kept lines before and
after its changes. Changes with at most five kept lines between them share a hunk, so the context
of neighbouring hunks never overlaps.
-/

namespace Galley.Patch

/-- A line of a hunk: context, or a line that is deleted or inserted. -/
inductive HunkLine where
  | context (line : Line)
  | delete (line : Line)
  | insert (line : Line)
  deriving Repr, DecidableEq

namespace HunkLine

/-- The line, whatever its role. -/
def line : HunkLine → Line
  | context l => l
  | delete l => l
  | insert l => l

/-- The lines that a hunk line stands for in the old text. -/
def before : HunkLine → List Line
  | context l => [l]
  | delete l => [l]
  | insert _ => []

/-- The lines that a hunk line stands for in the new text. -/
def after : HunkLine → List Line
  | context l => [l]
  | delete _ => []
  | insert l => [l]

end HunkLine

/-- A hunk. The two positions are those of its header: the number of the first line, counted from
one, and for an empty side the number of lines before it. -/
structure Hunk where
  oldStart : Nat
  newStart : Nat
  lines : List HunkLine
  deriving Repr, DecidableEq

namespace Hunk

/-- The lines that the hunk expects: context and deleted lines. -/
def before (hunk : Hunk) : List Line := hunk.lines.flatMap HunkLine.before

/-- The lines that the hunk leaves behind: context and inserted lines. -/
def after (hunk : Hunk) : List Line := hunk.lines.flatMap HunkLine.after

end Hunk

-- ---------------------------------------------------------------------------
-- Steps of a script
-- ---------------------------------------------------------------------------

/-- One change of a script: the lines kept since the change before it, then the lines removed and
the lines added in their place. -/
structure Step where
  kept : List Line
  removed : List Line
  added : List Line
  deriving Repr, DecidableEq

/-- A script as its changes, and the lines kept after the last of them. -/
structure Steps where
  changes : List Step
  tail : List Line
  deriving Repr, DecidableEq

namespace Steps

/-- Puts kept lines in front. -/
def keep (xs : List Line) : Steps → Steps
  | ⟨[], tail⟩ => ⟨[], xs ++ tail⟩
  | ⟨c :: cs, tail⟩ => ⟨{ c with kept := xs ++ c.kept } :: cs, tail⟩

/-- Puts a removal and an addition in front, as part of the first change if that one follows
directly. -/
def change (removed added : List Line) : Steps → Steps
  | ⟨[], tail⟩ => ⟨[⟨[], removed, added⟩], tail⟩
  | ⟨c :: cs, tail⟩ =>
    if c.kept = [] then ⟨⟨[], removed ++ c.removed, added ++ c.added⟩ :: cs, tail⟩
    else ⟨⟨[], removed, added⟩ :: c :: cs, tail⟩

/-- The changes of a script; deletions and insertions with nothing kept between them are one. -/
def ofScript : Script Line → Steps
  | [] => ⟨[], []⟩
  | .keep xs :: rest => (ofScript rest).keep xs
  | .delete xs :: rest => (ofScript rest).change xs []
  | .insert xs :: rest => (ofScript rest).change [] xs

end Steps

-- ---------------------------------------------------------------------------
-- Grouping changes into hunks
-- ---------------------------------------------------------------------------

/-- How many lines of context a hunk shows on either side of its changes. -/
def contextLength : Nat := 3

/-- Whether a change belongs into the hunk of the change before it: when fewer than six lines are
kept between them, or exactly six and the change only adds lines at the end of the old text. -/
def joins (change : Step) (later : List Step) (tail : List Line) : Bool :=
  change.kept.length < 2 * contextLength
    || (change.kept.length == 2 * contextLength && change.removed.isEmpty && later.isEmpty
      && tail.isEmpty)

/-- Groups changes that share a hunk; no group is empty. -/
def groups (tail : List Line) : List Step → List (Step × List Step)
  | [] => []
  | change :: later =>
    match groups tail later with
    | [] => [(change, [])]
    | (next, more) :: rest =>
      if joins next later.tail tail then (change, next :: more) :: rest
      else (change, []) :: (next, more) :: rest

namespace Step

/-- The hunk lines of the change itself: deletions before insertions. -/
def edits (change : Step) : List HunkLine :=
  change.removed.map .delete ++ change.added.map .insert

/-- The hunk lines of a change that follows another one in its hunk. -/
def continuation (change : Step) : List HunkLine :=
  change.kept.map .context ++ change.edits

end Step

/-- The header position of a side of a hunk that starts after `skipped` lines. -/
def headerStart (skipped : Nat) (side : List Line) : Nat :=
  if side = [] then skipped else skipped + 1

/-- The hunks of groups of changes, after `oldAt` lines of the old and `newAt` lines of the new
text. -/
def hunksOf (tail : List Line) : (oldAt newAt : Nat) → List (Step × List Step) → List Hunk
  | _, _, [] => []
  | oldAt, newAt, (first, more) :: rest =>
    let skipped := first.kept.length - contextLength
    let following := match rest with
      | [] => tail
      | (next, _) :: _ => next.kept
    let lines := (first.kept.drop skipped).map .context ++ first.edits
      ++ more.flatMap Step.continuation ++ (following.take contextLength).map .context
    let hunk : Hunk := ⟨0, 0, lines⟩
    let lengthOf (side : Step → List Line) : Nat :=
      (first :: more).foldl (fun n c => n + c.kept.length + (side c).length) 0
    { hunk with
      oldStart := headerStart (oldAt + skipped) hunk.before
      newStart := headerStart (newAt + skipped) hunk.after }
      :: hunksOf tail (oldAt + lengthOf Step.removed) (newAt + lengthOf Step.added) rest

/-- The hunks of an edit script. -/
def Hunk.ofScript (script : Script Line) : List Hunk :=
  let steps := Steps.ofScript script
  hunksOf steps.tail 0 0 (groups steps.tail steps.changes)

end Galley.Patch
