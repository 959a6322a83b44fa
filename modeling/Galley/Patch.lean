import Galley.Patch.Apply
import Galley.Patch.Reader

/-!
# Patches

A *patch* is the written difference of two texts. `Patch.diff` makes one and `Patch.apply` carries
it out; equal texts have the empty patch, which changes nothing. A patch can also be applied to a
text other than the one it was made from, as long as the old side of every hunk is found there.
-/

namespace Galley.Patch

/-- Why a patch cannot be carried out. -/
inductive Failure where
  | malformed (reason : Malformed)
  | doesNotApply (hunk : Nat)
  deriving Repr, DecidableEq

/-- The wording of a failure. -/
def Failure.message : Failure → String
  | malformed reason => "malformed patch: error parsing patch: " ++ reason.message
  | doesNotApply hunk => "patch does not apply: error applying hunk #" ++ toString hunk

/-- The hunks that turn one text into another. -/
def hunksBetween (old new : List Char) : List Hunk :=
  Hunk.ofScript (Script.between (Text.lines old) (Text.lines new))

/-- The patch from one text to another, as characters. -/
def diffChars (old new : List Char) : List Char :=
  if old = new then [] else print (hunksBetween old new)

/-- Carries out a patch, as characters. -/
def applyChars (text patch : List Char) : Except Failure (List Char) :=
  if patch = [] then .ok text
  else match read patch with
    | .error reason => .error (.malformed reason)
    | .ok hunks =>
      match applyHunks 0 (Image.ofLines (Text.lines text)) hunks with
      | .ok image => .ok image.toLines.flatten
      | .error hunk => .error (.doesNotApply hunk)

/-- The patch that turns `old` into `new`; empty exactly when they are equal. -/
def diff (old new : String) : String := String.ofList (diffChars old.toList new.toList)

/-- The text that a patch makes of a text. -/
def apply (text patch : String) : Except Failure String :=
  (applyChars text.toList patch.toList).map String.ofList

end Galley.Patch
