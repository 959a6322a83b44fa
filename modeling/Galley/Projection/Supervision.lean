import Galley.Projection.Runner

/-!
# Supervising a projection

A projection runs in the background until it is told to stop. The time of its life, in milliseconds,
runs only where something waits: between ticks, and while a checkpoint is being saved. Told to stop,
an idle projection stops at once; one that is saving may go on until the grace period ends, and is
then given up, which leaves everything as it was before the save.

Ticks are due one interval apart. A tick that comes late moves the following ones only if it is
late by more than `Follower.tolerance`.
-/

namespace Galley

/-- How long a projection runs, and how long things take. -/
structure Schedule where
  interval : Nat
  stopAt : Nat
  grace : Nat
  saving : Nat
  deriving Repr, DecidableEq

/-- How the life of a projection ended. -/
structure Lifetime where
  ending : Follower.Ending
  endedEarly : Bool
  graceRanOut : Bool

namespace Follower

/-- By how much a tick may be late without moving the following ones. -/
def tolerance : Nat := 5

/-- When the tick is due that follows one due at `due` and begun at `time`. -/
def nextDue (interval due time : Nat) : Nat :=
  if due + tolerance < time then time + interval else due + interval

/-- A life that came to its end at a time. -/
def lifetime (s : Schedule) (time : Nat) (ending : Ending) : Lifetime :=
  ⟨ending, time < s.stopAt, s.grace ≤ time - s.stopAt⟩

/-- The failure of a tick that ends the life: one that means that the log cannot be trusted. -/
def fatal? : Except Failure TickOutcome → Option Failure
  | .ok _ => none
  | .error e => if e.code.isIntegrity then some e else none

/-- Lives on from a time, with the next tick due at another. The fuel bounds the number of ticks. -/
def live (now : Instant) (s : Schedule) :
    (fuel time due : Nat) → Follower → StateM Backend (Lifetime × Follower)
  | 0, _, _, f => return (lifetime s s.stopAt .stopped, f)
  | fuel + 1, time, due, f => do
    let begun := max time due
    if s.stopAt ≤ begun then return (lifetime s s.stopAt .stopped, f)
    let events := (← get).events.log.length
    let (prepared, f) ← prepare now (stageBound events) f .restoring
    let ended := match prepared with
      | .ok (.saving ..) => begun + s.saving
      | _ => begun
    if s.stopAt + s.grace ≤ ended then return (⟨.stopped, false, true⟩, f)
    let (result, f) ← match prepared with
      | .ok stage => finish now f stage
      | .error e => pure (.error e, f)
    match fatal? result with
    | some e => return (lifetime s ended (.failed e), f.halt e)
    | none =>
      if s.stopAt ≤ ended then return (lifetime s ended .stopped, f)
      else live now s fuel ended (nextDue (max s.interval 1) due begun) f

/-- The whole life of a projection. -/
def supervise (now : Instant) (s : Schedule) (f : Follower) :
    StateM Backend (Lifetime × Follower) :=
  live now s (s.stopAt + 1) 0 0 f

end Follower

end Galley
