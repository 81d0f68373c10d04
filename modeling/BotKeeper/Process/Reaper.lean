/-
# Reaping stray instances

Before a bot is launched, the one a previous session left behind and every other process
that matches the query are stopped, one at a time.  Failures are noted and passed over.
-/
import BotKeeper.Process.Query
import BotKeeper.Session.Record

namespace BotKeeper

open Log

/-- Finds and stops processes that match a query. -/
structure Reaper (W : Type) where
  /-- How processes are listed. -/
  table : ProcessTable W
  /-- How a process is stopped. -/
  terminator : Terminator W

namespace Reaper

variable {W : Type} (r : Reaper W)

/-- Where events are recorded. -/
def journal : Journal W := r.terminator.journal

/-- Stops processes one after the other; yields how many are gone and those that are not,
with the reasons. -/
def reapEach (grace : Millis) : List Pid → Run W (Nat × List (Pid × String))
  | [] => return (0, [])
  | pid :: pids => do
    r.journal.warn .reaper "Killing existing bot process" [("pid", .number pid.toNat)]
    match ← r.terminator.terminate pid grace with
    | .failed reason =>
      let (gone, failed) ← reapEach grace pids
      return (gone, (pid, reason) :: failed)
    | outcome =>
      r.journal.debug .reaper "Stray process cleared"
        [("pid", .number pid.toNat), ("outcome", .plain outcome.display)]
      let (gone, failed) ← reapEach grace pids
      return (gone + 1, failed)

/-- Warns of each process that could not be stopped. -/
def reportFailed : List (Pid × String) → StateM W Unit
  | [] => pure ()
  | (pid, reason) :: failed => do
    r.journal.warn .reaper "Could not terminate stray process"
      [("pid", .number pid.toNat), ("reason", .plain reason)]
    reportFailed failed

/-- Stops every process that matches; yields how many are confirmed gone.  A table that
cannot be read counts as one without matches. -/
def reapAll (q : MatchQuery) (grace : Millis) : Run W Nat := do
  match ← findMatching r.table q with
  | .error e =>
    r.journal.warn .reaper "Error checking for existing processes" [("error", .plain e.message)]
    return 0
  | .ok [] =>
    r.journal.debug .reaper "No stray processes found" [("pattern", .quoted q.pattern.text)]
    return 0
  | .ok pids =>
    let (gone, failed) ← r.reapEach grace pids
    r.reportFailed failed
    return gone

/-- Removes the record, warning if that fails. -/
def dropRecord (store : RecordStore W) : StateM W Unit := do
  match ← store.clear with
  | .ok () => pure ()
  | .error e =>
    r.journal.warn .reaper "Failed to remove session record" [("error", .plain e.message)]

/-- Whether a process still matches.  Its identifier may have gone to another process, so
only the table can tell; a table that cannot be read tells nothing. -/
def stillMatches (q : MatchQuery) (pid : Pid) : StateM W Bool := do
  match ← findMatching r.table q with
  | .ok pids => return pids.contains pid
  | .error _ => return false

/-- Stops a recorded process if it still matches; yields how many processes were stopped. -/
def stopRecorded (q : MatchQuery) (pid : Pid) (grace : Millis) : Run W Nat := do
  if ← r.stillMatches q pid then
    match ← r.terminator.terminate pid grace with
    | .failed reason =>
      r.journal.warn .reaper "Could not terminate previous session's process"
        [("pid", .number pid.toNat), ("reason", .plain reason)]
      return 0
    | .alreadyGone => return 0
    | _ => return 1
  else
    r.journal.debug .reaper "Recorded process is no longer running" [("pid", .number pid.toNat)]
    return 0

/-- Stops the process that a previous session recorded, if it still matches, and removes
the record; yields how many processes were stopped. -/
def reapRecorded (store : RecordStore W) (q : MatchQuery) (grace : Millis) : Run W Nat := do
  match ← store.load with
  | .ok none => return 0
  | .error e =>
    r.journal.warn .reaper "Ignoring unreadable session record"
      [("path", .plain store.path), ("error", .plain e.message)]
    r.dropRecord store
    return 0
  | .ok (some record) =>
    r.journal.info .reaper "Found record of a previous session"
      [("pid", .number record.pid.toNat), ("command", .plain record.command)]
    let reaped ← r.stopRecorded q record.pid grace
    r.dropRecord store
    return reaped

end Reaper

end BotKeeper
