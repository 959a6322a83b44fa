import Galley.Patch.Printer
import Galley.Text.Digits
import Galley.Word

/-!
# Reading unified patches

`read` takes the text of a patch back to its hunks, or says why the text is no patch
(`Malformed`). Lines above the first side name or hunk header are passed over; a patch may name
its sides in either order, or not at all, and may hold no hunk. The ranges of a header must agree
with the body that follows it, and the hunks must come in order without overlapping.
-/

namespace Galley.Patch

/-- Why a text is no patch. -/
inductive Malformed where
  | repeatedOldName
  | repeatedNewName
  | unterminatedName
  | unknownEscape
  | missingEscape
  | rawInQuotedName
  | rawInPlainName
  | header
  | unterminatedHeader
  | range
  | afterContextMarker
  | afterDeleteMarker
  | afterInsertMarker
  | markerWithoutLine
  | markerWithoutNewline
  | unexpectedLine
  | countMismatch
  | overlap
  deriving Repr, DecidableEq

/-- The wording of a reason. -/
def Malformed.message : Malformed → String
  | repeatedOldName => "multiple '---' lines"
  | repeatedNewName => "multiple '+++' lines"
  | unterminatedName => "filename unterminated"
  | unknownEscape => "invalid escaped character"
  | missingEscape => "expected escaped character"
  | rawInQuotedName => "invalid unescaped character"
  | rawInPlainName => "invalid char in unquoted filename"
  | header => "unable to parse hunk header"
  | unterminatedHeader => "hunk header unterminated"
  | range => "can't parse range"
  | afterContextMarker => "expected end of hunk"
  | afterDeleteMarker => "expected no more deleted lines"
  | afterInsertMarker => "expected no more inserted lines"
  | markerWithoutLine => "unexpected 'No newline at end of file' line"
  | markerWithoutNewline => "missing newline"
  | unexpectedLine => "unexpected line in hunk body"
  | countMismatch => "Hunk header does not match hunk"
  | overlap => "Hunks not in order or overlap"

/-- Removes a leading part from a list of characters, if it is there. -/
def stripLead : (lead text : List Char) → Option (List Char)
  | [], text => some text
  | _ :: _, [] => none
  | a :: lead, c :: text => if a = c then stripLead lead text else none

/-- Cuts a list of characters at the first occurrence of a separator, which is left out. -/
def cutAt (separator : List Char) : List Char → Option (List Char × List Char)
  | [] => if separator = [] then some ([], []) else none
  | c :: text =>
    match stripLead separator (c :: text) with
    | some rest => some ([], rest)
    | none => (cutAt separator text).map fun (lead, rest) => (c :: lead, rest)

-- ---------------------------------------------------------------------------
-- Side names
-- ---------------------------------------------------------------------------

/-- Characters that a side name must escape. -/
def needsEscape (c : Char) : Bool :=
  c == '\n' || c == '\t' || c == '\x00' || c == '\r' || c == '"' || c == '\\'

/-- Checks the inside of a quoted side name. -/
def checkQuotedName : List Char → Except Malformed Unit
  | [] => .ok ()
  | ['\\'] => .error .missingEscape
  | '\\' :: c :: rest =>
    if c ∈ ['n', 't', '0', 'r', '"', '\\'] then checkQuotedName rest else .error .unknownEscape
  | c :: rest => if needsEscape c then .error .rawInQuotedName else checkQuotedName rest

/-- The inside of a name that stands in quotes. -/
def unquote? : List Char → Option (List Char)
  | '"' :: rest => if rest.getLast? = some '"' then some rest.dropLast else none
  | _ => none

/-- Checks a side name: what follows the marker, up to a tab or else to the end of the line. -/
def checkName (text : List Char) : Except Malformed Unit := do
  let name ← match cutAt ['\t'] text with
    | some (name, _) => pure name
    | none => match cutAt ['\n'] text with
      | some (name, _) => pure name
      | none => throw .unterminatedName
  match unquote? name with
  | some inside => checkQuotedName inside
  | none => if name.any needsEscape then throw .rawInPlainName else pure ()

/-- The mark of the line that names the old side. -/
def oldMark : List Char := "--- ".toList

/-- The mark of the line that names the new side. -/
def newMark : List Char := "+++ ".toList

/-- The mark of a hunk header. -/
def hunkMark : List Char := "@@ ".toList

/-- Passes over the side names, each of which may come once; gives back the lines after them. -/
def readNames (seenOld seenNew : Bool) : List Line → Except Malformed (List Line)
  | [] => .ok []
  | line :: rest =>
    match stripLead oldMark line with
    | some name =>
      if seenOld then .error .repeatedOldName
      else checkName name >>= fun _ => readNames true seenNew rest
    | none =>
      match stripLead newMark line with
      | some name =>
        if seenNew then .error .repeatedNewName
        else checkName name >>= fun _ => readNames seenOld true rest
      | none => .ok (line :: rest)

/-- Whether a line ends the text that may stand above a patch. -/
def startsPatch (line : Line) : Bool :=
  (stripLead oldMark line).isSome || (stripLead newMark line).isSome
    || (stripLead hunkMark line).isSome

-- ---------------------------------------------------------------------------
-- Hunk headers
-- ---------------------------------------------------------------------------

/-- Reads a natural number below 2^64: decimal digits, perhaps after one plus sign. -/
def readCount (text : List Char) : Option Nat :=
  (Text.readNatural? text).filter fun n => n < Word.values64

/-- Reads a range of a header: a start and a length, or a start alone for the length one. -/
def readRange (text : List Char) : Except Malformed (Nat × Nat) :=
  let number (digits : List Char) : Except Malformed Nat :=
    match readCount digits with
    | some n => .ok n
    | none => .error .range
  match cutAt [','] text with
  | some (start, length) => return (← number start, ← number length)
  | none => return (← number text, 1)

/-- The two ranges of a hunk header. -/
structure Header where
  oldStart : Nat
  oldLength : Nat
  newStart : Nat
  newLength : Nat
  deriving Repr, DecidableEq

/-- Reads a hunk header. What follows the closing mark is ignored. -/
def readHeader (line : Line) : Except Malformed Header := do
  let some text := stripLead hunkMark line | throw .header
  let some (ranges, _) := cutAt " @@".toList text | throw .unterminatedHeader
  let some (old, new) := cutAt [' '] ranges | throw .header
  let some old := stripLead ['-'] old | throw .header
  let (oldStart, oldLength) ← readRange old
  let some new := stripLead ['+'] new | throw .header
  let (newStart, newLength) ← readRange new
  return ⟨oldStart, oldLength, newStart, newLength⟩

-- ---------------------------------------------------------------------------
-- Hunk bodies
-- ---------------------------------------------------------------------------

/-- Which roles of line have been closed by a marker in the hunk read so far. -/
structure Closed where
  context : Bool
  delete : Bool
  insert : Bool

/-- Removes the newline at the end of a line. -/
def dropNewline (line : Line) : Except Malformed Line :=
  if Text.endsWithNewline line then .ok line.dropLast else .error .markerWithoutNewline

/-- Reads the lines of a hunk body; `read` holds those already read, the latest first. -/
def readBody (closed : Closed) (read : List HunkLine) :
    List Line → Except Malformed (List HunkLine)
  | [] => .ok read.reverse
  | line :: rest =>
    if closed.context then .error .afterContextMarker
    else match line with
      | ' ' :: text => readBody closed (.context text :: read) rest
      | '\n' :: _ => readBody closed (.context line :: read) rest
      | '-' :: text =>
        if closed.delete then .error .afterDeleteMarker
        else readBody closed (.delete text :: read) rest
      | '+' :: text =>
        if closed.insert then .error .afterInsertMarker
        else readBody closed (.insert text :: read) rest
      | _ =>
        if (stripLead noNewlineMarker line).isSome then
          match read with
          | [] => .error .markerWithoutLine
          | .context text :: read => do
            readBody { closed with context := true } (.context (← dropNewline text) :: read) rest
          | .delete text :: read => do
            readBody { closed with delete := true } (.delete (← dropNewline text) :: read) rest
          | .insert text :: read => do
            readBody { closed with insert := true } (.insert (← dropNewline text) :: read) rest
        else .error .unexpectedLine

/-- Whether a line belongs to the body of the hunk above it. -/
def inBody (line : Line) : Bool := line.head? != some '@'

/-- Reads one hunk from its header line and its body. -/
def readHunk (header : Line) (body : List Line) : Except Malformed (Header × Hunk) := do
  let header ← readHeader header
  let lines ← readBody ⟨false, false, false⟩ [] body
  let hunk : Hunk := ⟨header.oldStart, header.newStart, lines⟩
  if hunk.before.length = header.oldLength ∧ hunk.after.length = header.newLength then
    return (header, hunk)
  else throw .countMismatch

/-- Reads hunks until the text ends. -/
def readHunks : List Line → Except Malformed (List Hunk)
  | [] => .ok []
  | header :: rest => do
    let (_, hunk) ← readHunk header (rest.takeWhile inBody)
    let hunks ← readHunks (rest.dropWhile inBody)
    return hunk :: hunks
termination_by lines => lines.length
decreasing_by
  have := (List.dropWhile_suffix (l := rest) inBody).length_le
  simp only [List.length_cons]
  omega

/-- The first line number after a range; line numbers are 64-bit words. -/
def rangeEnd (start length : Nat) : Nat := (start + length) % Word.values64

/-- Whether no hunk starts before the end of the one above it, on either side. -/
def inOrder : List Hunk → Bool
  | first :: second :: rest =>
    rangeEnd first.oldStart first.before.length ≤ second.oldStart
      && rangeEnd first.newStart first.after.length ≤ second.newStart
      && inOrder (second :: rest)
  | _ => true

/-- Reads the hunks of a patch. -/
def read (text : List Char) : Except Malformed (List Hunk) := do
  let lines ← readNames false false ((Text.lines text).dropWhile (!startsPatch ·))
  let hunks ← readHunks lines
  if inOrder hunks then return hunks else throw .overlap

end Galley.Patch
