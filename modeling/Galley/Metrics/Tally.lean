import Galley.Decimal.Binary64
import Galley.Failure.Code
import Galley.Word

/-!
# Tallies

What the program counts about itself. A counter holds a total, a histogram the number of its
observations, and a gauge the last value it was set to, as a binary number can hold it. A measure
that was never used has no entry.
-/

namespace Galley

/-- Something that is counted or gauged. -/
inductive Measure where
  | failures (code : Code)
  | appended (kind : String)
  | conflicts
  | folded (projection : String)
  | position (projection : String)
  | renderings
  | requests (method path : String) (status : Nat)
  | requestDurations (method path : String) (status : Nat)
  deriving DecidableEq, Repr

namespace Measure

/-- The name of a measure. -/
def name : Measure → String
  | failures _ => "pdfgen_errors_total"
  | appended _ => "pdfgen_events_appended_total"
  | conflicts => "pdfgen_concurrency_conflicts_total"
  | folded _ => "pdfgen_projection_events_folded_total"
  | position _ => "pdfgen_projection_position"
  | renderings => "pdfgen_render_duration_seconds"
  | requests .. => "http_requests_total"
  | requestDurations .. => "http_request_duration_seconds"

/-- The labels of a measure, in order of their names. -/
def labels : Measure → List (String × String)
  | failures code => [("category", code.category), ("code", code.name)]
  | appended kind => [("kind", kind)]
  | conflicts => []
  | folded projection => [("projection", projection)]
  | position projection => [("projection", projection)]
  | renderings => []
  | requests method path status =>
    [("method", method), ("path", path), ("status_code", toString status)]
  | requestDurations method path status =>
    [("method", method), ("path", path), ("status_code", toString status)]

/-- The measure with its labels, on one line. -/
def label (m : Measure) : String :=
  match m.labels with
  | [] => m.name
  | labels =>
    let pairs := labels.map fun (name, value) => name ++ "=" ++ value
    m.name ++ "\x7b" ++ String.intercalate "," pairs ++ "\x7d"

end Measure

/-- The values of the measures that have been used. -/
structure Tally where
  entries : List (Measure × Nat)

namespace Tally

/-- The tally in which nothing has been used. -/
def empty : Tally := ⟨[]⟩

instance : Inhabited Tally := ⟨empty⟩

/-- Changes the value of a measure, which starts from zero. -/
def alter (m : Measure) (f : Nat → Nat) : List (Measure × Nat) → List (Measure × Nat)
  | [] => [(m, f 0)]
  | (other, n) :: rest => if other = m then (m, f n) :: rest else (other, n) :: alter m f rest

/-- The value of a measure; zero if it was never used. -/
def value (t : Tally) (m : Measure) : Nat := (t.entries.lookup m).getD 0

/-- Adds to a counter, or counts observations of a histogram. -/
def add (t : Tally) (m : Measure) (n : Nat) : Tally := ⟨alter m (· + n) t.entries⟩

/-- Sets a gauge. -/
def set (t : Tally) (m : Measure) (n : Nat) : Tally :=
  ⟨alter m (fun _ => min (Binary64.roundNat n) (Word.values64 - 1)) t.entries⟩

end Tally

end Galley
