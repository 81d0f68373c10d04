/-
# Settings

The settings of the keeper in two sections: how the bot is supervised and how npm is used.
Every key has a built-in default.
-/
import BotKeeper.Process.Terminator
import BotKeeper.Text.Utf8

namespace BotKeeper

/-- How the bot is supervised. -/
structure SupervisorSettings where
  /-- Seconds between the stop request and the kill. -/
  gracePeriodSecs : UInt64 := 5
  /-- Seconds a kill may take to be confirmed. -/
  forceWaitSecs : UInt64 := 2
  /-- The first interval between liveness polls in milliseconds. -/
  pollInitialMs : UInt64 := 100
  /-- The longest interval between liveness polls in milliseconds. -/
  pollCeilingMs : UInt64 := 1000
  /-- A pattern for stray processes in place of the built-in one. -/
  reapPattern : Option String := none
deriving DecidableEq, Repr

namespace SupervisorSettings

/-- The grace period. -/
def gracePeriod (s : SupervisorSettings) : Millis := s.gracePeriodSecs.toNat * 1000

/-- The longest wait for the confirmation of a kill. -/
def forceWait (s : SupervisorSettings) : Millis := s.forceWaitSecs.toNat * 1000

/-- The intervals between liveness polls, at least one millisecond. -/
def backoff (s : SupervisorSettings) : PollBackoff :=
  .ofBounds (max s.pollInitialMs.toNat 1)
    (max (max s.pollCeilingMs.toNat s.pollInitialMs.toNat) 1)

theorem one_le_backoff_initial (s : SupervisorSettings) : 1 ≤ s.backoff.initial :=
  Nat.le_max_right ..

end SupervisorSettings

/-- How npm is used. -/
structure NpmSettings where
  /-- The npm program, looked up by name when not set. -/
  binary : Option SystemText := none
  /-- The packages that must be installed. -/
  requiredPackages : List String := ["discord.js", "dotenv", "typescript", "ts-node"]
deriving DecidableEq, Repr

/-- All settings. -/
structure Settings where
  supervisor : SupervisorSettings := {}
  npm : NpmSettings := {}
deriving DecidableEq, Repr

namespace Settings

/-- The built-in settings. -/
def builtin : Settings := {}

end Settings

/-- The directory in a project that holds its settings and its session record. -/
def stateDirName : String := ".vixen"

end BotKeeper
