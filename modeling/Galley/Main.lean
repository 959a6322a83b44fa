import Galley.Api.Server
import Galley.Client
import Galley.Word
import Std.Time.DateTime.Timestamp

/-!
# The program

The client on a command line. It works on the files around it and on a server of its own in the same
process, whose store starts empty. Nothing is decided here: this carries out the steps of the
client's dialogue.
-/

namespace Galley.Main

/-- The variables of the environment that the client looks at. -/
def variableNames : List String := ["PDFGEN_SERVER", "CLICOLOR_FORCE", "NO_COLOR"]

/-- Those of the variables that are set. -/
def environment : IO (List (String × String)) :=
  variableNames.filterMapM fun name => do
    return (← IO.getEnv name).map fun value => (name, value)

/-- The time by the clock. -/
def now : IO Instant := do
  let nanos := (← Std.Time.Timestamp.now).toNanosecondsSinceUnixEpoch.val.toNat
  return (Instant.ofEpoch? (nanos / 1000000000) (nanos % 1000000000)).getD default

/-- An identifier made of random bits. -/
def freshId : IO Uuid := do
  let bits := (← IO.getRandomBytes 16).toList.foldl (fun n b => 256 * n + b.toNat) 0
  let high := bits / Word.values64
  let high := high - high / 0x1000 % 0x10 * 0x1000 + 0x4000
  let low := bits % (Word.values63 / 2) + Word.values63
  return Uuid.ofNat (high * Word.values64 + low)

/-- The result of an action, or the reason of its failure. -/
def attempt {α : Type} (action : IO α) : IO (Except String α) := do
  match ← action.toBaseIO with
  | .ok x => return .ok x
  | .error e => return .error (toString e)

/-- The world of the program: a server that keeps its storage in a cell, and the files. -/
def world (storage : IO.Ref Backend) : Client.Dialogue.World IO where
  send request := do
    let surroundings : Surroundings :=
      ⟨← now, ⟨← freshId, ← freshId⟩, .empty, ⟨"typst", .missing, .ofSeconds 30⟩⟩
    let backend ← storage.get
    let (response, backend) := (Server.serve ⟨[]⟩ surroundings request).run backend
    storage.set backend
    return .ok response
  load path := attempt (IO.FS.readFile path)
  save path bytes := attempt (IO.FS.writeBinFile path ⟨bytes.toArray⟩)

end Galley.Main

/-- Runs the client. -/
def main (words : List String) : IO UInt32 := do
  let storage ← IO.mkRef Galley.Backend.empty
  let dialogue := Galley.Client.run (← Galley.Main.environment) words
  let outcome ← dialogue.run (Galley.Main.world storage)
  IO.print outcome.output
  IO.eprint outcome.errors
  return UInt32.ofNat outcome.exit
