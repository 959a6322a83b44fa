import Galley.Patch.Hunk

/-!
# Applying hunks

Hunks are applied one after another to the lines of a text. A hunk goes to the place that its
header names if its old side stands there, and else to the nearest place where it does, earlier
places before later ones at the same distance. Lines that an earlier hunk produced are never
matched again.
-/

namespace Galley.Patch

/-- A line of a text under change, and whether a hunk produced it. -/
structure ImageLine where
  line : Line
  patched : Bool
  deriving Repr, DecidableEq

/-- A text under change. -/
abbrev Image := List ImageLine

/-- The image of a text that no hunk has touched. -/
def Image.ofLines (lines : List Line) : Image := lines.map fun line => ⟨line, false⟩

/-- The lines of an image. -/
def Image.toLines (image : Image) : List Line := image.map ImageLine.line

/-- Whether the image starts with the given lines, none of them produced by a hunk. -/
def Image.startsWith : Image → List Line → Bool
  | _, [] => true
  | [], _ :: _ => false
  | x :: image, line :: lines => x.line == line && !x.patched && Image.startsWith image lines

/-- Takes elements from two lists in turn, the first list first; when one is exhausted the other
goes on. -/
def interleave {α : Type} : List α → List α → List α
  | [], ys => ys
  | x :: xs, ys => x :: interleave ys xs
termination_by xs ys => xs.length + ys.length

/-- The places where a hunk is tried, in order, in an image of `length` lines: the place `start`,
then the places around it, nearest first. -/
def candidates (start length : Nat) : List Nat :=
  start :: interleave (List.range start).reverse (List.range' (start + 1) (length - (start + 1)))

/-- The place in the image where a hunk applies. -/
def locate (image : Image) (hunk : Hunk) : Option Nat :=
  let start := min (hunk.newStart - 1) image.length
  (candidates start image.length).find? fun i => Image.startsWith (image.drop i) hunk.before

/-- Replaces the old side of a hunk by its new side. -/
def applyHunk (image : Image) (hunk : Hunk) : Option Image := do
  let i ← locate image hunk
  return image.take i ++ hunk.after.map (⟨·, true⟩) ++ image.drop (i + hunk.before.length)

/-- Applies hunks in order; `applied` of them are done. Fails with the number, counted from one,
of the first hunk that fits nowhere. -/
def applyHunks (applied : Nat) : Image → List Hunk → Except Nat Image
  | image, [] => .ok image
  | image, hunk :: hunks =>
    match applyHunk image hunk with
    | some image => applyHunks (applied + 1) image hunks
    | none => .error (applied + 1)

end Galley.Patch
