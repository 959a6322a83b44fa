import Galley.Patch.Reader
import Galley.Proofs.Text.Digits
import Galley.Proofs.Text.Line
import Mathlib.Tactic.ByContra

/-!
# Written hunks, read back

A written patch is cut into the lines that were written, because every one of them ends with a
newline, also where the line it stands for does not. No line of a body starts with `@`, so bodies
end where the next header starts, whatever the lines of the text look like: the role of a line is
its first character, and an empty context line is told by its newline.

A hunk is `Readable` when both of its sides are lines of a text and the numbers of its header are
words of 64 bits. Then an open line is the last of its side, and the marker below it forbids only
lines that cannot follow.

Main results:

* `readHeader_printHeader` — headers are read back.
* `readBody_written` — bodies are read back.
* `read_print` — a patch of readable hunks in order is read back.
-/

namespace Galley.Patch

-- ---------------------------------------------------------------------------
-- Cutting texts
-- ---------------------------------------------------------------------------

@[simp] theorem stripLead_append (lead text : List Char) :
    stripLead lead (lead ++ text) = some text := by
  induction lead with
  | nil => rfl
  | cons c lead ih => simp [stripLead, ih]

/-- A text is cut at the first occurrence of a character. -/
theorem cutAt_char {c : Char} {front : List Char} (rest : List Char) (h : c ∉ front) :
    cutAt [c] (front ++ c :: rest) = some (front, rest) := by
  induction front with
  | nil => simp [cutAt, stripLead]
  | cons d front ih =>
    rw [List.mem_cons, not_or] at h
    simp [cutAt, stripLead, h.1, ih h.2]

/-- A text is not cut at a character that it does not have. -/
theorem cutAt_char_none {c : Char} {text : List Char} (h : c ∉ text) : cutAt [c] text = none := by
  induction text with
  | nil => simp [cutAt]
  | cons d text ih =>
    rw [List.mem_cons, not_or] at h
    simp [cutAt, stripLead, h.1, ih h.2]

/-- The ranges of a header end at its closing mark: they hold no `@` themselves. -/
theorem cutAt_closing {front : List Char} (rest : List Char) (h : '@' ∉ front) :
    cutAt [' ', '@', '@'] (front ++ ' ' :: '@' :: '@' :: rest) = some (front, rest) := by
  induction front with
  | nil => simp [cutAt, stripLead]
  | cons d front ih =>
    rw [List.mem_cons, not_or] at h
    have hStrip : stripLead [' ', '@', '@'] (d :: front ++ ' ' :: '@' :: '@' :: rest) = none := by
      cases front with
      | nil => simp [stripLead]
      | cons e front =>
        rw [List.mem_cons, not_or] at h
        simp [stripLead, h.2.1]
    rw [List.cons_append] at hStrip ⊢
    rw [cutAt, hStrip, ih h.2]
    rfl

-- ---------------------------------------------------------------------------
-- Headers
-- ---------------------------------------------------------------------------

/-- A count that is a word is read back from its digits. -/
theorem readCount_toDigits {n : Nat} (h : n < Word.values64) :
    readCount (Nat.toDigits 10 n) = some n := by
  rw [readCount, Text.readNatural?_toDigits]
  simp [h]

/-- A character that is neither digit nor comma is not in a range. -/
theorem not_mem_printRange {c : Char} (start length : Nat) (hDigit : c.isDigit = false)
    (hComma : c ≠ ',') : c ∉ printRange start length := by
  rw [printRange, List.mem_append, not_or]
  refine ⟨Text.not_mem_toDigits hDigit, ?_⟩
  split
  · simp
  · rw [List.mem_cons, not_or]
    exact ⟨hComma, Text.not_mem_toDigits hDigit⟩

/-- A written range is read back. -/
theorem readRange_printRange {start length : Nat} (hStart : start < Word.values64)
    (hLength : length < Word.values64) :
    readRange (printRange start length) = .ok (start, length) := by
  have hComma : ',' ∉ Nat.toDigits 10 start := Text.not_mem_toDigits (by decide)
  rw [printRange]
  split
  · next hOne =>
    rw [List.append_nil, readRange, cutAt_char_none hComma]
    simp only [readCount_toDigits hStart, hOne]
    rfl
  · rw [readRange, cutAt_char _ hComma]
    simp only [readCount_toDigits hStart, readCount_toDigits hLength]
    rfl

/-- The numbers of the header of a hunk are words of 64 bits. -/
structure Hunk.InWords (hunk : Hunk) : Prop where
  oldStart : hunk.oldStart < Word.values64
  oldLength : hunk.before.length < Word.values64
  newStart : hunk.newStart < Word.values64
  newLength : hunk.after.length < Word.values64

/-- The marks and the two ranges of a header. -/
theorem Hunk.printHeader_eq (hunk : Hunk) :
    hunk.printHeader =
      hunkMark ++ (('-' :: printRange hunk.oldStart hunk.before.length ++
        ' ' :: '+' :: printRange hunk.newStart hunk.after.length) ++
          ' ' :: '@' :: '@' :: ['\n']) := by
  show "@@ -".toList ++ _ ++ " +".toList ++ _ ++ " @@\n".toList = _
  simp [hunkMark]

/-- **A written header is read back**: the two ranges of the hunk. -/
theorem readHeader_printHeader {hunk : Hunk} (h : hunk.InWords) :
    readHeader hunk.printHeader =
      .ok ⟨hunk.oldStart, hunk.before.length, hunk.newStart, hunk.after.length⟩ := by
  generalize hOld : printRange hunk.oldStart hunk.before.length = old
  generalize hNew : printRange hunk.newStart hunk.after.length = new
  have hAt : '@' ∉ '-' :: old ++ ' ' :: '+' :: new := by
    have hInOld : '@' ∉ old := hOld ▸ not_mem_printRange _ _ (by decide) (by decide)
    have hInNew : '@' ∉ new := hNew ▸ not_mem_printRange _ _ (by decide) (by decide)
    simp [hInOld, hInNew]
  have hBlank : ' ' ∉ '-' :: old := by
    have hInOld : ' ' ∉ old := hOld ▸ not_mem_printRange _ _ (by decide) (by decide)
    simp [hInOld]
  have hPrint := hunk.printHeader_eq
  rw [hOld, hNew] at hPrint
  rw [readHeader, hPrint, stripLead_append]
  simp only [show " @@".toList = [' ', '@', '@'] from rfl, cutAt_closing _ hAt, cutAt_char _ hBlank,
    stripLead, if_true]
  rw [← hOld, ← hNew, readRange_printRange h.oldStart h.oldLength,
    readRange_printRange h.newStart h.newLength]
  rfl

-- ---------------------------------------------------------------------------
-- Bodies
-- ---------------------------------------------------------------------------

/-- The marker line below a line that has no newline. -/
def markerLine : Line := noNewlineMarker ++ ['\n']

/-- The character that says what a line of a body is. -/
def HunkLine.sign : HunkLine → Char
  | context _ => ' '
  | delete _ => '-'
  | insert _ => '+'

/-- A line behind its sign, and the marker line if it is open. -/
def signed (sign : Char) (line : Line) : List Line :=
  if Text.endsWithNewline line then [sign :: line] else [sign :: line ++ ['\n'], markerLine]

/-- The lines that a hunk line is written as. -/
def HunkLine.written (l : HunkLine) : List Line :=
  if l = context ['\n'] then [['\n']] else signed l.sign l.line

/-- The lines that a hunk is written as. -/
def Hunk.written (hunk : Hunk) : List Line :=
  hunk.printHeader :: hunk.lines.flatMap HunkLine.written

/-- What follows a marker line: its side has ended. -/
structure Closed.Allows (closed : Closed) (lines : List HunkLine) : Prop where
  context : closed.context = true → lines = []
  delete : closed.delete = true → lines.flatMap HunkLine.before = []
  insert : closed.insert = true → lines.flatMap HunkLine.after = []

/-- What is allowed for all lines is allowed for the rest. -/
theorem Closed.Allows.tail {closed : Closed} {l : HunkLine} {rest : List HunkLine}
    (h : closed.Allows (l :: rest)) : closed.Allows rest := by
  refine ⟨fun hc => ?_, fun hc => ?_, fun hc => ?_⟩
  · exact absurd (h.context hc) (by simp)
  · exact (List.append_eq_nil_iff.mp (h.delete hc)).2
  · exact (List.append_eq_nil_iff.mp (h.insert hc)).2

/-- Before a line of the old text neither context nor deletions have been closed, and before a line
of the new text neither context nor insertions. -/
theorem Closed.Allows.context_eq_false {closed : Closed} {l : HunkLine} {rest : List HunkLine}
    (h : closed.Allows (l :: rest)) : closed.context = false := by
  by_contra hc
  exact absurd (h.context (by simpa using hc)) (by simp)

/-- A side that has lines to come has not been closed. -/
theorem Closed.Allows.delete_eq_false {closed : Closed} {l : HunkLine} {rest : List HunkLine}
    (h : closed.Allows (l :: rest)) (hl : l.before ≠ []) : closed.delete = false := by
  by_contra hc
  exact hl (List.append_eq_nil_iff.mp (h.delete (by simpa using hc))).1

theorem Closed.Allows.insert_eq_false {closed : Closed} {l : HunkLine} {rest : List HunkLine}
    (h : closed.Allows (l :: rest)) (hl : l.after ≠ []) : closed.insert = false := by
  by_contra hc
  exact hl (List.append_eq_nil_iff.mp (h.insert (by simpa using hc))).1

/-- A hunk line stands on one of the sides, so lines without sides are none. -/
theorem eq_nil_of_sides {lines : List HunkLine} (hBefore : lines.flatMap HunkLine.before = [])
    (hAfter : lines.flatMap HunkLine.after = []) : lines = [] := by
  cases lines with
  | nil => rfl
  | cons l rest => cases l <;> simp [HunkLine.before, HunkLine.after] at hBefore hAfter

/-- An ended line is written behind its sign. -/
theorem signed_ended {sign : Char} {line : Line} (h : Text.Ended line) :
    signed sign line = [sign :: line] := by
  rw [signed, if_pos h.endsWithNewline]

/-- An open line is ended, and marked. -/
theorem signed_open {sign : Char} {line : Line} (h : Text.Open line) :
    signed sign line = [sign :: (line ++ ['\n']), markerLine] := by
  rw [signed, h.endsWithNewline]
  rfl

theorem dropNewline_append (line : Line) : dropNewline (line ++ ['\n']) = .ok line := by
  rw [dropNewline, Text.endsWithNewline]
  simp

section steps

variable {closed : Closed} (hContext : closed.context = false) (read : List HunkLine)
  (line : Line) (rest : List Line)

include hContext

/-- A line behind a space is context. -/
theorem readBody_context :
    readBody closed read ((' ' :: line) :: rest) =
      readBody closed (.context line :: read) rest := by
  simp [readBody, hContext]

/-- An empty line is context, too, whose space has been lost. -/
theorem readBody_newline :
    readBody closed read (['\n'] :: rest) = readBody closed (.context ['\n'] :: read) rest := by
  simp [readBody, hContext]

/-- A line behind a minus is deleted. -/
theorem readBody_delete (hDelete : closed.delete = false) :
    readBody closed read (('-' :: line) :: rest) =
      readBody closed (.delete line :: read) rest := by
  simp [readBody, hContext, hDelete]

/-- A line behind a plus is inserted. -/
theorem readBody_insert (hInsert : closed.insert = false) :
    readBody closed read (('+' :: line) :: rest) =
      readBody closed (.insert line :: read) rest := by
  simp [readBody, hContext, hInsert]

/-- A marker line takes the newline off the line read last and closes its role; the lines behind
it are read with that role closed. -/
theorem readBody_marker (l : HunkLine) (hLine : l.line = line ++ ['\n']) :
    readBody closed (l :: read) (markerLine :: rest) =
      match l with
      | .context _ => readBody { closed with context := true } (.context line :: read) rest
      | .delete _ => readBody { closed with delete := true } (.delete line :: read) rest
      | .insert _ => readBody { closed with insert := true } (.insert line :: read) rest := by
  have hMarker : (stripLead noNewlineMarker markerLine).isSome = true := by
    rw [markerLine, stripLead_append]
    rfl
  have hHead : markerLine = '\\' :: markerLine.tail := rfl
  rw [hHead] at hMarker ⊢
  generalize markerLine.tail = more at *
  cases l <;>
    (simp only [HunkLine.line] at hLine
     simp only [readBody, hContext, hMarker, hLine, dropNewline_append]
     rfl)

end steps

/-- **A body of lines of two texts is read back.** An open line is the last of its side, so no
line comes after its marker that the marker forbids. -/
theorem readBody_written (lines : List HunkLine) :
    ∀ (closed : Closed) (read : List HunkLine), closed.Allows lines →
      Text.AreLines (lines.flatMap HunkLine.before) →
      Text.AreLines (lines.flatMap HunkLine.after) →
      readBody closed read (lines.flatMap HunkLine.written) = .ok (read.reverse ++ lines) := by
  induction lines with
  | nil =>
    intro closed read _ _ _
    simp [readBody]
  | cons l rest ih =>
    intro closed read hAllows hBefore hAfter
    have hContext := hAllows.context_eq_false
    have ihRest := fun read => ih closed read hAllows.tail
    rw [List.flatMap_cons] at hBefore hAfter ⊢
    cases l with
    | context line =>
      have hDelete := hAllows.delete_eq_false (by simp [HunkLine.before])
      have hInsert := hAllows.insert_eq_false (by simp [HunkLine.after])
      simp only [HunkLine.before, HunkLine.after, List.singleton_append] at hBefore hAfter
      rcases hBefore.each line (List.mem_cons_self ..) with hEnded | hOpen
      · by_cases hBlank : line = ['\n']
        · rw [HunkLine.written, if_pos (by rw [hBlank]), List.singleton_append,
            readBody_newline hContext, ihRest _ hBefore.tail hAfter.tail, hBlank]
          simp
        · rw [HunkLine.written, if_neg (by simpa using hBlank), HunkLine.line, signed_ended hEnded,
            List.singleton_append, HunkLine.sign, readBody_context hContext,
            ihRest _ hBefore.tail hAfter.tail]
          simp
      · have hBlank : line ≠ ['\n'] := fun h => hOpen.2 (by simp [h])
        -- an open context line ends both sides
        have hRest : rest = [] :=
          eq_nil_of_sides (hBefore.eq_nil_of_open hOpen) (hAfter.eq_nil_of_open hOpen)
        rw [HunkLine.written, if_neg (by simpa using hBlank), HunkLine.line, signed_open hOpen,
          HunkLine.sign, hRest]
        simp only [List.cons_append, List.nil_append, List.flatMap_nil]
        rw [readBody_context hContext, readBody_marker hContext _ line _ _ rfl]
        simp [readBody]
    | delete line =>
      have hDelete := hAllows.delete_eq_false (by simp [HunkLine.before])
      simp only [HunkLine.before, HunkLine.after, List.singleton_append, List.nil_append]
        at hBefore hAfter
      rcases hBefore.each line (List.mem_cons_self ..) with hEnded | hOpen
      · rw [HunkLine.written, if_neg (by simp), HunkLine.line, signed_ended hEnded,
          List.singleton_append, HunkLine.sign, readBody_delete hContext _ _ _ hDelete,
          ihRest _ hBefore.tail hAfter]
        simp
      · have hEnd := hBefore.eq_nil_of_open hOpen
        rw [HunkLine.written, if_neg (by simp), HunkLine.line, signed_open hOpen, HunkLine.sign]
        simp only [List.cons_append, List.nil_append]
        rw [readBody_delete hContext _ _ _ hDelete, readBody_marker hContext _ line _ _ rfl]
        show readBody { closed with delete := true } (.delete line :: read) _ = _
        rw [ih { closed with delete := true } _
          ⟨hAllows.tail.context, fun _ => hEnd, hAllows.tail.insert⟩ hBefore.tail hAfter]
        simp
    | insert line =>
      have hInsert := hAllows.insert_eq_false (by simp [HunkLine.after])
      simp only [HunkLine.before, HunkLine.after, List.singleton_append, List.nil_append]
        at hBefore hAfter
      rcases hAfter.each line (List.mem_cons_self ..) with hEnded | hOpen
      · rw [HunkLine.written, if_neg (by simp), HunkLine.line, signed_ended hEnded,
          List.singleton_append, HunkLine.sign, readBody_insert hContext _ _ _ hInsert,
          ihRest _ hBefore hAfter.tail]
        simp
      · have hEnd := hAfter.eq_nil_of_open hOpen
        rw [HunkLine.written, if_neg (by simp), HunkLine.line, signed_open hOpen, HunkLine.sign]
        simp only [List.cons_append, List.nil_append]
        rw [readBody_insert hContext _ _ _ hInsert, readBody_marker hContext _ line _ _ rfl]
        show readBody { closed with insert := true } (.insert line :: read) _ = _
        rw [ih { closed with insert := true } _
          ⟨hAllows.tail.context, hAllows.tail.delete, fun _ => hEnd⟩ hBefore hAfter.tail]
        simp

-- ---------------------------------------------------------------------------
-- Hunks
-- ---------------------------------------------------------------------------

/-- A hunk that can be read back from its written form. -/
structure Hunk.Readable (hunk : Hunk) : Prop where
  before : Text.AreLines hunk.before
  after : Text.AreLines hunk.after
  inWords : hunk.InWords

/-- The line of a hunk line is one of the lines of its sides. -/
theorem Hunk.Readable.each {hunk : Hunk} (h : hunk.Readable) {l : HunkLine} (hl : l ∈ hunk.lines) :
    Text.Ended l.line ∨ Text.Open l.line := by
  have hBefore : l.before ⊆ hunk.before := fun x hx => List.mem_flatMap.mpr ⟨l, hl, hx⟩
  have hAfter : l.after ⊆ hunk.after := fun x hx => List.mem_flatMap.mpr ⟨l, hl, hx⟩
  cases l with
  | context line => exact h.before.each line (hBefore (by simp [HunkLine.before]))
  | delete line => exact h.before.each line (hBefore (by simp [HunkLine.before]))
  | insert line => exact h.after.each line (hAfter (by simp [HunkLine.after]))

theorem ended_markerLine : Text.Ended markerLine := ⟨noNewlineMarker, by decide, rfl⟩

/-- The lines that a hunk line is written as are ended, and none of them starts with `@`. -/
theorem mem_written {l : HunkLine} (hl : Text.Ended l.line ∨ Text.Open l.line) {line : Line}
    (h : line ∈ l.written) : Text.Ended line ∧ inBody line = true := by
  have hSign : l.sign ≠ '\n' ∧ l.sign ≠ '@' := by cases l <;> simp [HunkLine.sign]
  rw [HunkLine.written] at h
  split at h
  · rw [List.mem_singleton] at h
    subst h
    exact ⟨⟨[], by simp, rfl⟩, rfl⟩
  · rcases hl with hEnded | hOpen
    · rw [signed_ended hEnded, List.mem_singleton] at h
      subst h
      exact ⟨hEnded.cons hSign.1, by simp [inBody, hSign.2]⟩
    · rw [signed_open hOpen, List.mem_cons, List.mem_singleton] at h
      rcases h with rfl | rfl
      · exact ⟨hOpen.ended.cons hSign.1, by simp [inBody, hSign.2]⟩
      · exact ⟨ended_markerLine, rfl⟩

/-- The written form of a hunk line is its written lines. -/
theorem HunkLine.print_eq {l : HunkLine} (hl : Text.Ended l.line ∨ Text.Open l.line) :
    l.print = l.written.flatten := by
  have hSigned : ∀ sign : Char, terminate (sign :: l.line) = (signed sign l.line).flatten := by
    intro sign
    have hne : l.line ≠ [] := by
      rcases hl with ⟨body, -, hLine⟩ | hOpen
      · simp [hLine]
      · exact hOpen.1
    have hLast : Text.endsWithNewline (sign :: l.line) = Text.endsWithNewline l.line := by
      obtain ⟨c, more, hLine⟩ := List.exists_cons_of_ne_nil hne
      simp [Text.endsWithNewline, hLine]
    rw [terminate, hLast, signed]
    split <;> simp [markerLine]
  rw [written]
  cases l with
  | context line =>
    rw [print]
    split
    · next hBlank => simp [hBlank]
    · next hBlank => rw [if_neg (by simpa using hBlank)]; exact hSigned ' '
  | delete line => rw [print, if_neg (by simp)]; exact hSigned '-'
  | insert line => rw [print, if_neg (by simp)]; exact hSigned '+'

/-- Printed lines are their written forms one after another. -/
theorem print_lines {lines : List HunkLine}
    (h : ∀ l ∈ lines, Text.Ended l.line ∨ Text.Open l.line) :
    lines.flatMap HunkLine.print = (lines.flatMap HunkLine.written).flatten := by
  induction lines with
  | nil => rfl
  | cons l rest ih =>
    rw [List.flatMap_cons, List.flatMap_cons, List.flatten_append,
      HunkLine.print_eq (h l (List.mem_cons_self ..)),
      ih fun x hx => h x (List.mem_cons_of_mem _ hx)]

/-- A header is an ended line that starts with `@`. -/
theorem ended_printHeader (hunk : Hunk) : Text.Ended hunk.printHeader := by
  have hOld := not_mem_printRange hunk.oldStart hunk.before.length (c := '\n') (by decide)
    (by decide)
  have hNew := not_mem_printRange hunk.newStart hunk.after.length (c := '\n') (by decide)
    (by decide)
  refine ⟨hunkMark ++ (('-' :: printRange hunk.oldStart hunk.before.length ++
    ' ' :: '+' :: printRange hunk.newStart hunk.after.length) ++ [' ', '@', '@']), ?_, ?_⟩
  · simp [hunkMark, hOld, hNew]
  · rw [Hunk.printHeader_eq]
    simp

/-- A header is no line of the hunk before it. -/
theorem inBody_printHeader (hunk : Hunk) : inBody hunk.printHeader = false := by
  rw [Hunk.printHeader_eq]
  simp [hunkMark, inBody]

theorem startsPatch_printHeader (hunk : Hunk) :
    stripLead oldMark hunk.printHeader = none ∧ stripLead newMark hunk.printHeader = none := by
  rw [Hunk.printHeader_eq]
  simp [hunkMark, oldMark, newMark, stripLead]

/-- The written form of a readable hunk is its written lines, all of them ended. -/
theorem Hunk.Readable.print_eq {hunk : Hunk} (h : hunk.Readable) :
    hunk.print = hunk.written.flatten ∧ ∀ line ∈ hunk.written, Text.Ended line := by
  refine ⟨?_, fun line hline => ?_⟩
  · rw [Hunk.print, Hunk.written, List.flatten_cons, print_lines fun l hl => h.each hl]
  · rcases List.mem_cons.mp hline with rfl | hline
    · exact ended_printHeader hunk
    · obtain ⟨l, hl, hline⟩ := List.mem_flatMap.mp hline
      exact (mem_written (h.each hl) hline).1

/-- A readable hunk is read back from its header and its body. -/
theorem readHunk_written {hunk : Hunk} (h : hunk.Readable) :
    readHunk hunk.printHeader (hunk.lines.flatMap HunkLine.written) =
      .ok (⟨hunk.oldStart, hunk.before.length, hunk.newStart, hunk.after.length⟩, hunk) := by
  have hBody := readBody_written hunk.lines ⟨false, false, false⟩ []
    ⟨by simp, by simp, by simp⟩ h.before h.after
  rw [readHunk, readHeader_printHeader h.inWords]
  show (readBody _ _ _ >>= _) = _
  rw [hBody]
  show (if _ then _ else _) = _
  rw [if_pos ⟨rfl, rfl⟩]
  rfl

/-- **Readable hunks are read back** from their written lines: a body ends where the next header
starts. -/
theorem readHunks_written (hunks : List Hunk) (h : ∀ hunk ∈ hunks, hunk.Readable) :
    readHunks (hunks.flatMap Hunk.written) = .ok hunks := by
  induction hunks with
  | nil => rw [List.flatMap_nil, readHunks]
  | cons hunk rest ih =>
    have hHunk := h hunk (List.mem_cons_self ..)
    have ihRest := ih fun x hx => h x (List.mem_cons_of_mem _ hx)
    have hIn : ∀ line ∈ hunk.lines.flatMap HunkLine.written, inBody line = true := by
      intro line hline
      obtain ⟨l, hl, hline⟩ := List.mem_flatMap.mp hline
      exact (mem_written (hHunk.each hl) hline).2
    have hNext : (rest.flatMap Hunk.written).takeWhile inBody = [] ∧
        (rest.flatMap Hunk.written).dropWhile inBody = rest.flatMap Hunk.written := by
      cases rest with
      | nil => exact ⟨rfl, rfl⟩
      | cons next more => simp [Hunk.written, inBody_printHeader]
    have hTake : (hunk.lines.flatMap HunkLine.written ++ rest.flatMap Hunk.written).takeWhile
        inBody = hunk.lines.flatMap HunkLine.written := by
      rw [List.takeWhile_append_of_pos hIn, hNext.1, List.append_nil]
    have hDrop : (hunk.lines.flatMap HunkLine.written ++ rest.flatMap Hunk.written).dropWhile
        inBody = rest.flatMap Hunk.written := by
      rw [List.dropWhile_append_of_pos hIn, hNext.2]
    rw [List.flatMap_cons, Hunk.written, List.cons_append, readHunks, hTake, hDrop,
      readHunk_written hHunk, ihRest]
    rfl

/-- The written form of readable hunks is their written lines. -/
theorem print_hunks (hunks : List Hunk) (h : ∀ hunk ∈ hunks, hunk.Readable) :
    hunks.flatMap Hunk.print = (hunks.flatMap Hunk.written).flatten := by
  induction hunks with
  | nil => rfl
  | cons hunk rest ih =>
    rw [List.flatMap_cons, List.flatMap_cons, List.flatten_append,
      (h hunk (List.mem_cons_self ..)).print_eq.1,
      ih fun x hx => h x (List.mem_cons_of_mem _ hx)]

/-- A written patch names its sides, so it is not empty. -/
theorem print_ne_nil (hunks : List Hunk) : print hunks ≠ [] := by
  have hPreamble : preamble ≠ [] := by decide
  rw [print]
  exact List.append_ne_nil_of_left_ne_nil hPreamble _

/-- The line that names the old side. -/
def oldNameLine : Line := oldMark ++ "original\n".toList

/-- The line that names the new side. -/
def newNameLine : Line := newMark ++ "modified\n".toList

/-- The lines of a written patch: the names of the sides, and the lines of the hunks. -/
theorem lines_print (hunks : List Hunk) (h : ∀ hunk ∈ hunks, hunk.Readable) :
    Text.lines (print hunks) = oldNameLine :: newNameLine :: hunks.flatMap Hunk.written := by
  have hOld : Text.Ended oldNameLine := ⟨"--- original".toList, by decide, by decide⟩
  have hNew : Text.Ended newNameLine := ⟨"+++ modified".toList, by decide, by decide⟩
  have hPrint : print hunks =
      oldNameLine ++ (newNameLine ++ ((hunks.flatMap Hunk.written).flatten ++ [])) := by
    rw [print, print_hunks hunks h, List.append_nil, ← List.append_assoc]
    congr 1
  have hEnded : ∀ line ∈ hunks.flatMap Hunk.written, Text.Ended line := by
    intro line hline
    obtain ⟨hunk, hHunk, hline⟩ := List.mem_flatMap.mp hline
    exact (h hunk hHunk).print_eq.2 line hline
  rw [hPrint, Text.lines_append hOld, Text.lines_append hNew, Text.lines_flatten_append hEnded]
  simp [Text.lines]

/-- The names of the sides are passed over. -/
theorem readNames_written (hunks : List Hunk) :
    readNames false false (oldNameLine :: newNameLine :: hunks.flatMap Hunk.written) =
      .ok (hunks.flatMap Hunk.written) := by
  have hOld : checkName "original\n".toList = .ok () := rfl
  have hNew : checkName "modified\n".toList = .ok () := rfl
  have hNewLine : stripLead oldMark newNameLine = none := by decide
  rw [readNames, oldNameLine, stripLead_append]
  simp only [Bool.false_eq_true, if_false, hOld]
  show readNames true false (newNameLine :: _) = _
  rw [readNames, hNewLine, newNameLine, stripLead_append]
  simp only [Bool.false_eq_true, if_false, hNew]
  show readNames true true _ = _
  cases hunks with
  | nil => rfl
  | cons hunk rest =>
    obtain ⟨h1, h2⟩ := startsPatch_printHeader hunk
    rw [List.flatMap_cons, Hunk.written, List.cons_append, readNames, h1, h2]

/-- **Reading a written patch gives back its hunks**, if they are readable and in order. -/
theorem read_print (hunks : List Hunk) (h : ∀ hunk ∈ hunks, hunk.Readable)
    (hOrder : inOrder hunks = true) : read (print hunks) = .ok hunks := by
  have hStart : startsPatch oldNameLine = true := by
    rw [startsPatch, oldNameLine, stripLead_append]
    rfl
  rw [read, lines_print hunks h, List.dropWhile_cons_of_neg (by simp [hStart]),
    readNames_written hunks]
  show (readHunks _ >>= _) = _
  rw [readHunks_written hunks h]
  show (if _ then _ else _) = _
  rw [if_pos hOrder]
  rfl

end Galley.Patch
