/-
# Stopping a single process

A process is asked to exit, watched for a grace period, and killed if it is still there.
Liveness is polled at intervals that double up to a ceiling, and the last interval is cut
short so that one poll always falls on the end of the window.
-/
import BotKeeper.Log.Event
import BotKeeper.Number.Seconds
import BotKeeper.Process.Clock
import BotKeeper.Process.Signals

namespace BotKeeper

open Log

/-- The intervals between liveness polls. -/
structure PollBackoff where
  /-- The first interval. -/
  initial : Millis
  /-- The longest interval. -/
  ceiling : Millis
  /-- The ceiling is not below the first interval. -/
  initial_le_ceiling : initial ≤ ceiling
deriving DecidableEq, Repr

namespace PollBackoff

/-- Intervals from `initial` up to `ceiling`; a ceiling below the first interval is raised
to it. -/
def ofBounds (initial ceiling : Millis) : PollBackoff :=
  ⟨initial, max ceiling initial, Nat.le_max_right ..⟩

/-- A tenth of a second, growing to one second. -/
def standard : PollBackoff := ofBounds 100 1000

/-- The interval after `current`. -/
def next (b : PollBackoff) (current : Millis) : Millis := min (current * 2) b.ceiling

theorem next_le (b : PollBackoff) (current : Millis) : b.next current ≤ b.ceiling :=
  Nat.min_le_right ..

end PollBackoff

/-- Stops processes through a capability. -/
structure Terminator (W : Type) where
  /-- How processes are observed and stopped. -/
  signals : StopSignals W
  /-- How time passes. -/
  clock : Clock W
  /-- Where events are recorded. -/
  journal : Journal W
  /-- The intervals between polls. -/
  backoff : PollBackoff
  /-- How long a kill may take to be confirmed. -/
  forceWait : Millis

namespace Terminator

variable {W : Type} (t : Terminator W)

/-- Polls until `pid` is gone or `deadline` is reached; the process is polled at the
deadline itself.  Every poll but the last waits at least one millisecond when the intervals
are positive, so `polls` counts down from the length of the window. -/
def pollUntil (pid : Pid) (deadline : Millis) : (polls : Nat) → (interval : Millis) → Run W Bool
  | 0, _ => pure false
  | polls + 1, interval => do
    if !(← t.signals.isAlive pid) then
      return true
    let now ← t.clock.now
    if deadline ≤ now then
      return false
    t.clock.sleep (min interval (deadline - now))
    pollUntil pid deadline polls (t.backoff.next interval)

/-- Waits until `pid` is gone, for `window` at most. -/
def waitGone (pid : Pid) (window : Millis) : Run W Bool := do
  let start ← t.clock.now
  t.pollUntil pid (start + window) (window + 1) t.backoff.initial

/-- The reason given for a process that outlived its kill. -/
def survivorReason : String := s!"still alive {Seconds.oneDecimal t.forceWait}s after forceful kill"

/-- Kills `pid` and waits for the confirmation. -/
def force (pid : Pid) : Run W Outcome := do
  t.journal.warn .terminator "Killing process forcefully" [("pid", .number pid.toNat)]
  match ← t.signals.forceKill pid with
  | .noSuchProcess => return .alreadyGone
  | .unsupported => return .failed "forceful kill unsupported on this platform"
  | .failed reason => return .failed reason
  | .delivered =>
    if ← t.waitGone pid t.forceWait then
      t.journal.info .terminator "Process killed" [("pid", .number pid.toNat)]
      return .forcefulExit
    else
      return .failed t.survivorReason

/-- The kill at the end of a termination.  A process that is gone by then vanished between
the last poll and the kill. -/
def escalate (pid : Pid) : Run W Outcome := do
  match ← t.force pid with
  | .alreadyGone => return .gracefulExit
  | outcome => return outcome

/-- Stops `pid`: asks it to exit and kills it if it is still there after `grace`, or at once
if it cannot be asked. -/
def terminate (pid : Pid) (grace : Millis) : Run W Outcome := do
  if !(← t.signals.isAlive pid) then
    t.journal.debug .terminator "Process already gone" [("pid", .number pid.toNat)]
    return .alreadyGone
  match ← t.signals.requestStop pid with
  | .delivered =>
    if ← t.waitGone pid grace then
      t.journal.info .terminator "Process terminated gracefully" [("pid", .number pid.toNat)]
      return .gracefulExit
    t.journal.warn .terminator "Process did not terminate within grace period"
      [("pid", .number pid.toNat), ("grace_secs", .seconds grace)]
    t.escalate pid
  | .noSuchProcess => return .alreadyGone
  | .unsupported =>
    t.journal.info .terminator
      "Graceful stop not available on this platform, killing directly"
      [("pid", .number pid.toNat)]
    t.escalate pid
  | .failed reason =>
    t.journal.warn .terminator "Graceful stop request failed, killing directly"
      [("pid", .number pid.toNat), ("reason", .plain reason)]
    t.escalate pid

end Terminator

end BotKeeper
