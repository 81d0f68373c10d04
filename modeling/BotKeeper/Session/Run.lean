/-
# One supervised run of the bot

A session clears away stray instances, launches the bot, sees it through to its end and
turns the way it ended into an exit code.  Whatever way the session itself ends, a launched
bot is not left behind without a kill, and its record is not left behind without reason.
-/
import BotKeeper.Process.Reaper
import BotKeeper.Session.Shutdown

namespace BotKeeper

open Log

/-! ## Exit codes -/

/-- The exit code of a session whose bot could not be started. -/
def launchFailedCode : UInt8 := 2

/-- The exit code of a session whose bot survived its kill. -/
def terminationFailedCode : UInt8 := 3

/-- The exit code that stands for a status: the code of the bot, or 128 more than the
signal that ended it. -/
def ExitStatus.sessionCode : ExitStatus → UInt8
  | exited code => code
  | signaled signal => if 128 + signal < 256 then .ofNat (128 + signal) else 1

/-- How a session ended. -/
structure SessionExit where
  code : UInt8
  /-- None if the bot was never started. -/
  report? : Option ShutdownReport
deriving DecidableEq, Repr

namespace SessionExit

/-- The bot could not be started. -/
def launchFailed : SessionExit := ⟨launchFailedCode, none⟩

/-- The operator interrupted before anything was launched. -/
def interrupted : SessionExit := ⟨0, none⟩

/-- The bot came to its end. -/
def ofReport (report : ShutdownReport) : SessionExit :=
  let code := match report with
    | .natural status => status.sessionCode
    | .graceful | .forceful => 0
    | .failed .. => terminationFailedCode
  ⟨code, some report⟩

end SessionExit

/-! ## Configuration and capabilities -/

/-- What a session needs to know about the bot. -/
structure SessionConfig (W : Type) where
  command : LaunchCommand
  /-- Which processes count as stray instances. -/
  query : MatchQuery
  gracePeriod : Millis
  forceWait : Millis
  backoff : PollBackoff
  /-- Where the record is kept. -/
  store : RecordStore W

/-- The configuration of a session for a command in a project.  A configured pattern
replaces the built-in one; either way only processes of the project count. -/
def SessionConfig.ofSettings {W : Type} (files : Files W) (journal : Journal W)
    (command : LaunchCommand) (projectDir : String) (settings : SupervisorSettings) :
    StateM W (Except KeeperError (SessionConfig W)) := do
  let config (query : MatchQuery) : SessionConfig W :=
    { command, query
      gracePeriod := settings.gracePeriod
      forceWait := settings.forceWait
      backoff := settings.backoff
      store := .inProject files journal projectDir }
  match settings.reapPattern with
  | some pattern =>
    match MatchQuery.regex pattern with
    | .error e => return .error e
    | .ok query => return .ok (config (← query.inDirectory files projectDir))
  | none => return .ok (config (← MatchQuery.managedBot files projectDir))

/-- The capability to start the bot in a world `W`. -/
structure Launcher (W : Type) where
  /-- Starts a command as the leader of a process group. -/
  start : LaunchCommand → StateM W (Except SystemError (Pid × ChildWatch W))
  /-- The present instant in nanoseconds since the epoch. -/
  wallClock : StateM W Int

/-- The interrupts of the operator in a world `W`. -/
structure Interrupts (W : Type) where
  /-- Takes an interrupt that has arrived. -/
  receive : StateM W Bool
  /-- Waits for a span of time or until an interrupt arrives, which it takes. -/
  nap : Millis → Run W Bool

/-- A clock whose waits end with the whole phase when an interrupt arrives. -/
def Clock.interruptible {W : Type} (clock : Clock W) (interrupts : Interrupts W) : Clock W where
  now := clock.now
  sleep span := do
    if ← interrupts.nap span then
      throw .interrupted

/-- Supervises one bot. -/
structure Session (W : Type) where
  /-- How processes are listed. -/
  table : ProcessTable W
  /-- How the launched bot is signalled. -/
  childSignals : StopSignals W
  /-- How stray instances are signalled. -/
  straySignals : StopSignals W
  /-- How the bot is started. -/
  launcher : Launcher W
  /-- The interrupts of the operator. -/
  interrupts : Interrupts W
  clock : Clock W
  journal : Journal W

namespace Launcher

variable {W : Type}

/-- Starts the bot and notes the outcome. -/
def launch (l : Launcher W) (journal : Journal W) (command : LaunchCommand) :
    StateM W (Except KeeperError (Handle W)) := do
  match ← l.start command with
  | .error e =>
    journal.error .launcher "Failed to launch process"
      [("command", .plain command.display), ("error", .plain e.message)]
    return .error (.launchFailed command.display e.message)
  | .ok (pid, watch) =>
    journal.info .launcher "Launched bot process"
      [("pid", .number pid.toNat), ("command", .plain command.display),
       ("working_dir", .plain command.workingDir)]
    return .ok { pid, command, watch, launchedAt := ← l.wallClock, state := .running }

end Launcher

namespace Session

variable {W : Type} (s : Session W)

/-! ## Clearing the environment -/

/-- How stray instances are found and stopped. -/
def reaper (config : SessionConfig W) : Reaper W where
  table := s.table
  terminator :=
    { signals := s.straySignals
      clock := s.clock.interruptible s.interrupts
      journal := s.journal
      backoff := config.backoff
      forceWait := config.forceWait }

/-- Stops the bot of the previous session, then every other stray instance; yields how many
were stopped. -/
def reap (config : SessionConfig W) : Run W Nat := do
  let recorded ←
    (s.reaper config).reapRecorded config.store config.query config.gracePeriod
  let others ← (s.reaper config).reapAll config.query config.gracePeriod
  return recorded + others

/-- Clears the environment unless the operator interrupts; none if that happened.  The
queue of interrupts is looked at before the work begins and whenever it waits. -/
def reapUnlessInterrupted (config : SessionConfig W) : Run W (Option Nat) := do
  if ← s.interrupts.receive then
    return none
  else
    try
      let reaped ← s.reap config
      pure (some reaped)
    catch
      | .interrupted => pure none
      | .dropped => throw .dropped

/-! ## The guard -/

/-- Removes the record, warning if that fails. -/
def clearRecord (config : SessionConfig W) : StateM W Unit := do
  match ← config.store.clear with
  | .ok () => pure ()
  | .error e =>
    s.journal.warn .session "Failed to remove session record" [("error", .plain e.message)]

/-- Tidies up behind a bot that came to its end.  One that survived keeps its record, so
that the next session can find it. -/
def complete (config : SessionConfig W) (pid : Pid) (report : ShutdownReport) : StateM W Unit := do
  match report with
  | .failed .. =>
    s.journal.warn .session "Keeping session record so the next run can reap the survivor"
      [("pid", .number pid.toNat), ("path", .plain config.store.path)]
  | _ => s.clearRecord config

/-- The name of a delivery in log lines. -/
def deliveryName : Delivery → String
  | .delivered => "Delivered"
  | .noSuchProcess => "NoSuchProcess"
  | .unsupported => "Unsupported"
  | .failed reason => "Failed(" ++ Text.quoted reason ++ ")"

/-- Tidies up behind a session that is dropped while its bot may still run. -/
def abandon (config : SessionConfig W) (pid : Pid) : StateM W Unit := do
  s.journal.warn .session "Session ended before the bot exited, killing it"
    [("pid", .number pid.toNat)]
  let delivery ← s.childSignals.forceKill pid
  s.journal.info .session "Cleanup kill sent"
    [("pid", .number pid.toNat), ("delivery", .plain (deliveryName delivery))]
  s.clearRecord config

/-! ## The run -/

/-- Records a launched bot. -/
def keepRecord (config : SessionConfig W) (h : Handle W) : StateM W Unit := do
  let record := SessionRecord.ofLaunch h.pid h.command.display h.launchedAt s.table.ownPid
  match ← config.store.save record with
  | .ok () => pure ()
  | .error e =>
    s.journal.warn .session "Failed to write session record" [("error", .plain e.message)]

/-- How the bot is seen through to its end. -/
def coordinator (config : SessionConfig W) : ShutdownCoordinator W where
  terminator :=
    { signals := s.childSignals
      clock := s.clock
      journal := s.journal
      backoff := config.backoff
      forceWait := config.forceWait }
  gracePeriod := config.gracePeriod

/-- Sees a launched bot through to its end, under guard. -/
def supervise (config : SessionConfig W) (h : Handle W) :
    Run W (ShutdownReport × Handle W) := do
  try
    (s.coordinator config).drive h
  catch halt =>
    s.abandon config h.pid
    throw halt

/-- The last note of a session. -/
def noteEnd (h : Handle W) (exit : SessionExit) : StateM W Unit := do
  let now ← s.launcher.wallClock
  let uptime := (now - h.launchedAt).toNat / 1000000000
  s.journal.info .session "Session finished"
    [("code", .number exit.code.toNat), ("uptime_secs", .number uptime),
     ("state", .plain h.state.name)]

/-- Launches the bot into a clean environment and sees it through to its end. -/
def launchAndSupervise (config : SessionConfig W) : Run W SessionExit := do
  match ← s.launcher.launch s.journal config.command with
  | .error e =>
    s.journal.error .session "Bot could not be started" [("error", .plain e.message)]
    return .launchFailed
  | .ok h =>
    s.keepRecord config h
    s.journal.info .session "Press Ctrl+C to stop the bot"
    let (report, h) ← s.supervise config h
    s.complete config h.pid report
    let exit := SessionExit.ofReport report
    s.noteEnd h exit
    return exit

/-- One session from beginning to end.  An interrupt while stray instances are stopped ends
it without a launch. -/
def run (config : SessionConfig W) : Run W SessionExit := do
  s.journal.info .session "Checking for existing bot processes..."
  match ← s.reapUnlessInterrupted config with
  | none =>
    s.journal.info .session "Interrupted before launch, not starting the bot"
    return .interrupted
  | some reaped =>
    if 0 < reaped then
      s.journal.info .session "Terminated existing bot processes" [("count", .number reaped)]
    s.journal.info .session "Process environment is clean."
    s.launchAndSupervise config

end Session

end BotKeeper
