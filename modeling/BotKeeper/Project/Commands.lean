/-
# Commands of the operator

What the operator can ask for, and the steps each command takes with the tools of a project:
checking its files, cleaning, installing packages, building, and running the bot under
supervision.  The first step that fails is the last one taken.
-/
import BotKeeper.Process.Programs

namespace BotKeeper

open Log

/-- How the bot is run. -/
inductive RunMode where
  /-- The compiled bot. -/
  | production
  /-- The sources of the bot. -/
  | development
deriving DecidableEq, Repr

namespace RunMode

/-- The npm script of a mode. -/
def script : RunMode → String
  | production => "start"
  | development => "dev"

/-- The name of a mode. -/
def label : RunMode → String
  | production => "production"
  | development => "development"

end RunMode

/-- A command of the operator. -/
inductive ManagerCommand where
  /-- Checks files and packages. -/
  | init
  /-- Builds the bot. -/
  | build (forceClean : Bool)
  /-- Builds and runs the bot. -/
  | start (skipBuild forceClean : Bool)
  /-- Runs the sources of the bot. -/
  | dev
  /-- Removes what was built and installed. -/
  | clean
deriving DecidableEq, Repr

/-- Whether a command is of no use without npm. -/
def ManagerCommand.needsNpm : ManagerCommand → Bool
  | init | clean => false
  | _ => true

/-- The tools of a project in a world `W`. -/
structure Toolchain (W : Type) where
  /-- Whether npm was found. -/
  npmAvailable : StateM W Bool
  /-- Checks the files of the project and creates those that are missing. -/
  ensureConfigFiles : StateM W (Except KeeperError Unit)
  /-- Installs the required packages that are missing. -/
  ensureDependencies : StateM W (Except KeeperError Unit)
  /-- Builds the bot. -/
  build : StateM W (Except KeeperError Unit)
  /-- Removes what was built and installed. -/
  clean : StateM W (Except KeeperError Unit)
  /-- How the bot is started. -/
  launchCommand : RunMode → StateM W (Except KeeperError LaunchCommand)

/-- Runs the bot under supervision in a world `W`; yields the exit code. -/
abbrev Supervisor (W : Type) := LaunchCommand → StateM W (Except Failure UInt8)

variable {W : Type}

/-- A computation that ends at its first failure. -/
abbrev Task (W : Type) := ExceptT Failure (StateM W)

/-- A step as a part of a task. -/
def Task.ofStep {α : Type} (step : StateM W (Except KeeperError α)) : Task W α := do
  match ← step with
  | .ok a => return a
  | .error e => throw e.toFailure

namespace Toolchain

variable (t : Toolchain W) (journal : Journal W)

/-- Checks the project and, if npm is there, its packages. -/
def init : Task W UInt8 := do
  Task.ofStep t.ensureConfigFiles
  journal.info .commands "All configuration files are present."
  if ← t.npmAvailable then
    Task.ofStep t.ensureDependencies
  else
    journal.warn .commands "npm not found. Please install Node.js and npm to complete initialization."
  return 0

/-- Checks the project, cleans it if asked to, and builds it if asked to.  Packages are
checked after cleaning, which removes them. -/
def prepare (forceClean build : Bool) : Task W Unit := do
  Task.ofStep t.ensureConfigFiles
  if forceClean then
    Task.ofStep t.clean
  Task.ofStep t.ensureDependencies
  if build then
    Task.ofStep t.build

/-- Runs the bot. -/
def run (supervisor : Supervisor W) (mode : RunMode) : Task W UInt8 := do
  let command ← Task.ofStep (t.launchCommand mode)
  journal.info .commands s!"Starting bot in {mode.label} mode..."
  ExceptT.mk (supervisor command)

/-- The steps of a command. -/
def perform (supervisor : Supervisor W) : ManagerCommand → Task W UInt8
  | .init => t.init journal
  | .clean => do
    Task.ofStep t.clean
    return 0
  | .build forceClean => do
    t.prepare forceClean true
    return 0
  | .start skipBuild forceClean => do
    t.prepare forceClean (!skipBuild)
    t.run journal supervisor .production
  | .dev => do
    t.prepare false false
    t.run journal supervisor .development

/-- Carries out a command; yields the exit code. -/
def execute (supervisor : Supervisor W) (command : ManagerCommand) : StateM W UInt8 := do
  if command.needsNpm then
    if !(← t.npmAvailable) then
      journal.error .commands "npm not found. Please install Node.js and npm."
      return 1
  match ← (t.perform journal supervisor command).run with
  | .ok code => return code
  | .error failure =>
    journal.error .commands failure.message
    return 1

end Toolchain

end BotKeeper
