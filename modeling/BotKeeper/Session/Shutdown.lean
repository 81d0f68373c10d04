/-
# Seeing the bot through to its end

A running bot is watched until it exits or the operator interrupts.  The first interrupt
asks it to exit; if it has not done so when the grace period ends, or cannot be asked, it is
killed.  Interrupts after the first one only leave a note.
-/
import BotKeeper.Error
import BotKeeper.Process.Terminator

namespace BotKeeper

open Log

/-- What ends a wait for the bot. -/
inductive Wake where
  /-- The bot exited. -/
  | exited (status : ExitStatus)
  /-- Waiting for it failed. -/
  | waitFailed (reason : String)
  /-- The operator interrupted. -/
  | interrupted
  /-- No interrupt is left, and nobody can send one any more. -/
  | silenced
  /-- The time is up. -/
  | timeUp
deriving DecidableEq, Repr

/-- The capability to wait for the launched bot in a world `W`. -/
structure ChildWatch (W : Type) where
  /-- Waits until the bot exits, until an instant if one is given, or, if it listens, until an
  interrupt arrives, which it takes, or none can arrive any more. -/
  wait : (until? : Option Millis) → (listens : Bool) → Run W Wake
  /-- How many interrupts can still arrive at most. -/
  arrivals : StateM W Nat

/-- The bot launched by a session. -/
structure Handle (W : Type) where
  pid : Pid
  command : LaunchCommand
  /-- When it was launched, in nanoseconds since the epoch. -/
  launchedAt : Int
  state : Lifecycle
  /-- How its end is awaited. -/
  watch : ChildWatch W

/-- How the bot came to its end. -/
inductive ShutdownReport where
  /-- It exited by itself. -/
  | natural (status : ExitStatus)
  /-- It exited within the grace period. -/
  | graceful
  /-- It was killed. -/
  | forceful
  /-- It survived. -/
  | failed (pid : Pid) (reason : String)
deriving DecidableEq, Repr

namespace ShutdownReport

/-- The name of a way to the end. -/
def path : ShutdownReport → String
  | natural _ => "natural"
  | graceful => "graceful"
  | forceful => "forceful"
  | failed .. => "failed"

end ShutdownReport

/-- Sees one bot through to its end. -/
structure ShutdownCoordinator (W : Type) where
  /-- How the bot is stopped. -/
  terminator : Terminator W
  /-- How long it may take to exit when asked to. -/
  gracePeriod : Millis

namespace ShutdownCoordinator

variable {W : Type} (c : ShutdownCoordinator W)

/-- How long the status of a killed bot is awaited. -/
def reapWait : Millis := 2000

/-- Where events are recorded. -/
def journal : Journal W := c.terminator.journal

/-- How the bot is signalled. -/
def signals : StopSignals W := c.terminator.signals

/-- Moves the bot to a later state. -/
def advance (h : Handle W) (next : Lifecycle) : StateM W (Handle W) := do
  let fields : List (String × Value) :=
    [("pid", .number h.pid.toNat), ("from", .plain h.state.name), ("to", .plain next.name)]
  if next ≤ h.state then
    c.journal.debug .lifecycle "Ignoring backwards lifecycle transition" fields
  else
    c.journal.debug .lifecycle "Lifecycle transition" fields
  return { h with state := h.state.advance next }

/-- Closes the run of a bot: what is left of its group is killed if the bot itself exited,
and the report is noted. -/
def finish (pid : Pid) (report : ShutdownReport) : StateM W ShutdownReport := do
  match report with
  | .natural _ | .graceful =>
    if (← c.signals.killLeftovers pid) == .delivered then
      c.journal.warn .shutdown "Killed processes left behind in the bot's process group"
        [("pid", .number pid.toNat)]
  | .forceful | .failed .. => pure ()
  match report with
  | .failed _ reason =>
    let text := (KeeperError.terminationFailed pid reason).message
    c.journal.error .shutdown s!"{text}; stop it manually (e.g. `kill -9 {pid}`)"
      [("pid", .number pid.toNat)]
  | .natural status =>
    c.journal.info .shutdown "Bot has been shut down."
      [("pid", .number pid.toNat), ("path", .quoted report.path), ("status", .plain status.display)]
  | .graceful | .forceful =>
    c.journal.info .shutdown "Bot has been shut down."
      [("pid", .number pid.toNat), ("path", .quoted report.path)]
  return report

/-- Waits a bounded time for the status of a killed bot. -/
def collect (h : Handle W) : Run W Unit := do
  let now ← c.terminator.clock.now
  match ← h.watch.wait (some (now + reapWait)) false with
  | .exited status =>
    c.journal.info .shutdown "Bot process reaped"
      [("pid", .number h.pid.toNat), ("status", .plain status.display)]
  | .waitFailed reason =>
    c.journal.warn .shutdown "Error reaping bot process"
      [("pid", .number h.pid.toNat), ("error", .plain reason)]
  | .interrupted | .silenced | .timeUp =>
    c.journal.warn .shutdown "Timed out reaping bot process" [("pid", .number h.pid.toNat)]

/-- Closes the run of a bot that was killed. -/
def conclude (h : Handle W) : Run W (ShutdownReport × Handle W) := do
  c.collect h
  let h ← c.advance h .exited
  return (← c.finish h.pid .forceful, h)

/-- Kills the bot. -/
def escalate (h : Handle W) : Run W (ShutdownReport × Handle W) := do
  let h ← c.advance h .signaledForceful
  match ← c.terminator.force h.pid with
  | .failed reason => return (← c.finish h.pid (.failed h.pid reason), h)
  | _ => c.conclude h

/-- Notes that waiting for the bot failed, and kills it. -/
def escalateUnwatched (h : Handle W) (reason : String) : Run W (ShutdownReport × Handle W) := do
  c.journal.warn .shutdown "Error waiting for bot process"
    [("pid", .number h.pid.toNat), ("error", .plain reason)]
  c.escalate h

/-- Waits for the bot and for an interrupt.  That nobody can interrupt any more is no
interrupt: from then on the bot alone is awaited. -/
def await (h : Handle W) (until? : Option Millis) : Run W Wake := do
  match ← h.watch.wait until? true with
  | .silenced => h.watch.wait until? false
  | wake => return wake

/-- Waits for the bot until an instant and notes each interrupt.  `arrivals` counts down the
interrupts that can still arrive; when none can, the bot alone is awaited. -/
def awaitNoting (h : Handle W) (deadline : Millis) : (arrivals : Nat) → Run W Wake
  | 0 => h.watch.wait (some deadline) false
  | arrivals + 1 => do
    match ← await h (some deadline) with
    | .interrupted =>
      c.journal.info .shutdown "Shutdown already in progress, ignoring repeated interrupt"
        [("pid", .number h.pid.toNat)]
      awaitNoting h deadline arrivals
    | wake => return wake

/-- Waits for a bot that was asked to exit, and kills it when the grace period ends. -/
def awaitGrace (h : Handle W) : Run W (ShutdownReport × Handle W) := do
  let start ← c.terminator.clock.now
  let arrivals ← h.watch.arrivals
  match ← c.awaitNoting h (start + c.gracePeriod) arrivals with
  | .exited status =>
    c.journal.info .shutdown "Bot exited after graceful stop"
      [("pid", .number h.pid.toNat), ("status", .plain status.display)]
    let h ← c.advance h .exited
    return (← c.finish h.pid .graceful, h)
  | .waitFailed reason => c.escalateUnwatched h reason
  | .interrupted | .silenced | .timeUp =>
    c.journal.warn .shutdown "Bot did not stop within grace period"
      [("pid", .number h.pid.toNat), ("grace_secs", .seconds c.gracePeriod)]
    c.escalate h

/-- Stops the bot after an interrupt. -/
def stop (h : Handle W) : Run W (ShutdownReport × Handle W) := do
  c.journal.info .shutdown "Stopping bot due to keyboard interrupt..."
    [("pid", .number h.pid.toNat)]
  let h ← c.advance h .signaledGraceful
  match ← c.signals.requestStop h.pid with
  | .delivered | .noSuchProcess => c.awaitGrace h
  | .unsupported =>
    c.journal.info .shutdown "No graceful stop available on this platform, killing directly"
      [("pid", .number h.pid.toNat)]
    c.escalate h
  | .failed reason =>
    c.journal.warn .shutdown "Failed to send graceful stop"
      [("pid", .number h.pid.toNat), ("reason", .plain reason)]
    c.escalate h

/-- Waits until the bot exits or the operator interrupts, and sees it through to its end. -/
def drive (h : Handle W) : Run W (ShutdownReport × Handle W) := do
  match ← await h none with
  | .exited status =>
    let h ← c.advance h .exited
    return (← c.finish h.pid (.natural status), h)
  | .waitFailed reason => c.escalateUnwatched h reason
  | .interrupted | .silenced | .timeUp => c.stop h

end ShutdownCoordinator

end BotKeeper
