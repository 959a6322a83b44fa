import Galley.Storage.Backend
import Galley.Time.Duration
import Galley.Text.Bytes

/-!
# Renderers

A renderer is a program outside: it takes a document, runs for a while and leaves an output, which
is the rendered document, and messages. It may be missing, and it may fail. `Renderer.compile` says
what a run means: only a run that ends in time and with success gives a document.
-/

namespace Galley

/-- How a run ends. -/
inductive Exit where
  | code (n : Nat)
  | signal (n : Nat)
  deriving DecidableEq, Repr

namespace Exit

/-- The name of a signal. -/
def signalName (n : Nat) : Option String :=
  [(1, "SIGHUP"), (2, "SIGINT"), (3, "SIGQUIT"), (4, "SIGILL"), (5, "SIGTRAP"), (6, "SIGABRT"),
    (7, "SIGBUS"), (8, "SIGFPE"), (9, "SIGKILL"), (10, "SIGUSR1"), (11, "SIGSEGV"),
    (12, "SIGUSR2"), (13, "SIGPIPE"), (14, "SIGALRM"), (15, "SIGTERM"), (16, "SIGSTKFLT"),
    (17, "SIGCHLD"), (18, "SIGCONT"), (19, "SIGSTOP"), (20, "SIGTSTP"), (21, "SIGTTIN"),
    (22, "SIGTTOU"), (23, "SIGURG"), (24, "SIGXCPU"), (25, "SIGXFSZ"), (26, "SIGVTALRM"),
    (27, "SIGPROF"), (28, "SIGWINCH"), (29, "SIGIO"), (30, "SIGPWR"), (31, "SIGSYS")].lookup n

/-- How a run ended, as a message says it. -/
def toText : Exit → String
  | code n => "exit status: " ++ toString n
  | signal n =>
    "signal: " ++ toString n
      ++ (match signalName n with
        | some name => " (" ++ name ++ ")"
        | none => "")

end Exit

/-- One run of a renderer. -/
structure Run where
  lasts : Duration
  exit : Exit
  output : List UInt8
  errors : List UInt8

/-- The program behind a renderer. -/
inductive Program where
  /-- There is no such file. -/
  | missing
  /-- The file may not be run. -/
  | forbidden
  /-- Starting it fails for another reason. -/
  | broken (reason : String)
  /-- It can be run on a document. -/
  | present (run : String → Run)

/-- A renderer: the name of its program, the program, and how long a run may last. -/
structure Renderer where
  binary : String
  program : Program
  timeout : Duration

namespace Renderer

/-- The reason that a program cannot be started. -/
def cannotStart (binary reason : String) : String := "cannot start '" ++ binary ++ "': " ++ reason

/-- Renders a document. Every run that ends in time is counted. -/
def compile (r : Renderer) (document : String) : Operation (List UInt8) :=
  match r.program with
  | .missing =>
    Operation.fail
      (.renderUnavailable (cannotStart r.binary "No such file or directory (os error 2)"))
  | .forbidden =>
    Operation.fail (.renderUnavailable (cannotStart r.binary "Permission denied (os error 13)"))
  | .broken reason => Operation.fail (.renderBroken reason)
  | .present run => do
    let done := run document
    if r.timeout.nanos ≤ done.lasts.nanos then
      Operation.fail (.renderFailed ("typst did not finish within " ++ r.timeout.toText))
    else
      Operation.count .renderings 1
      if done.exit = .code 0 then return done.output
      else
        Operation.fail (.renderFailed
          ("typst exited with " ++ done.exit.toText ++ ": "
            ++ Text.trimString (Text.decodeLossy done.errors)))

end Renderer

end Galley
