/-
# The project of the bot

An npm project on a disk and the tools to check, build, clean and start it.
-/
import BotKeeper.Project.Commands
import BotKeeper.Project.Npm
import BotKeeper.Project.Packages
import BotKeeper.Project.Templates

namespace BotKeeper

open Log

/-- An npm project of the bot. -/
structure BotProject where
  dir : String
  /-- The npm to use, if one was found. -/
  npm? : Option SystemText
  requiredPackages : List String
deriving DecidableEq, Repr

namespace BotProject

variable {W : Type} (project : BotProject) (files : Files W) (programs : Programs W)
  (journal : Journal W)

/-! ## Files of the project -/

/-- Creates a file of the project unless something has its name; yields whether it was
created. -/
def writeIfMissing (name contents : String) : StateM W (Except KeeperError Bool) := do
  let path := Path.join project.dir name
  match ← files.createNew path with
  | .error .alreadyExists => return .ok false
  | .error e => return .error (.file e)
  | .ok () =>
    match ← files.write path contents with
    | .error e => return .error (.file e)
    | .ok () => return .ok true

/-- The files that are created without further ado. -/
def plainFiles : List (String × String) :=
  [("package.json", Templates.packageFile), ("tsconfig.json", Templates.compilerFile)]

/-- Creates the files that are missing, with a warning for each. -/
def ensurePlainFiles : List (String × String) → StateM W (Except KeeperError Unit)
  | [] => return .ok ()
  | (name, contents) :: rest => do
    match ← project.writeIfMissing files name contents with
    | .error e => return .error e
    | .ok created =>
      if created then
        journal.warn .project s!"{name} not found, created a basic one"
      ensurePlainFiles rest

/-- The error for an environment file that still holds placeholders. -/
def unfilledError (found : List String) : KeeperError :=
  let listed := Text.joined ", " found
  .configMissing
    ("You need to set your Discord token and client ID in the .env file (found " ++ listed ++ ")")

/-- The error for an environment file that was just created. -/
def templateError : KeeperError :=
  .configMissing
    ".env not found; created a template. Please fill in your Discord token and client ID"

/-- Checks that the environment file is there and filled in. -/
def ensureEnvironment : StateM W (Except KeeperError Unit) := do
  match ← project.writeIfMissing files ".env" Templates.environmentFile with
  | .error e => return .error e
  | .ok true => return .error templateError
  | .ok false =>
    match ← files.readText (Path.join project.dir ".env") with
    | .error e => return .error (.file e)
    | .ok text =>
      match Templates.unfilled text with
      | [] => return .ok ()
      | found => return .error (unfilledError found)

/-- Checks the files of the project and creates those that are missing. -/
def ensureConfigFiles : StateM W (Except KeeperError Unit) := do
  match ← project.ensurePlainFiles files journal plainFiles with
  | .error e => return .error e
  | .ok () => project.ensureEnvironment files

/-! ## Packages and builds -/

/-- The error of a project without npm. -/
def npmMissing : KeeperError :=
  .dependencyMissing "npm not found. Please install Node.js and npm."

/-- Installs packages. -/
def install (npm : SystemText) (packages : List String) : StateM W (Except KeeperError Unit) := do
  journal.warn .project "Missing required npm packages"
    [("packages", .plain (Text.joined ", " packages))]
  match ← programs.perform journal "Installing missing packages..." npm ("install" :: packages)
      project.dir with
  | .error failure => return .error (.dependencyMissing failure.message)
  | .ok () =>
    journal.info .project "Packages installed successfully!"
    return .ok ()

/-- Installs the required packages that are missing. -/
def ensureDependencies : StateM W (Except KeeperError Unit) := do
  match project.npm? with
  | none => return .error npmMissing
  | some npm =>
    journal.info .project "Using npm command" [("npm", .plain npm.display)]
    match ← programs.capture journal npm ["list", "--depth=0"] project.dir with
    | .error failure => return .error (.dependencyMissing failure.message)
    | .ok listing =>
      match Packages.missing listing project.requiredPackages with
      | [] =>
        journal.debug .project "All required npm packages are installed"
        return .ok ()
      | packages => project.install programs journal npm packages

/-- Builds the bot. -/
def build : StateM W (Except KeeperError Unit) := do
  match project.npm? with
  | none => return .error npmMissing
  | some npm =>
    match ← programs.perform journal "Building TypeScript code..." npm ["run", "build"]
        project.dir with
    | .error failure => return .error (.buildFailed failure.message)
    | .ok () =>
      journal.info .project "Build successful!"
      return .ok ()

/-! ## Cleaning and starting -/

/-- The directories removed by cleaning, in order. -/
def cleanedDirs : List String := ["dist", "node_modules"]

/-- Removes a directory of the project if it is there.  A failure is noted and passed
over. -/
def removeDir (name : String) : StateM W Unit := do
  let path := Path.join project.dir name
  if ← files.isPresent path then
    if name == "node_modules" then
      journal.info .project "Removing node_modules (this may take a moment)..."
    match ← files.removeTree path with
    | .ok () => journal.info .project s!"Removed {name} directory"
    | .error e =>
      journal.error .project s!"Error removing {name}"
        [("path", .plain path), ("error", .plain e.message)]

/-- Removes what was built and installed. -/
def clean : StateM W (Except KeeperError Unit) := do
  journal.info .project "Cleaning project..."
  cleanedDirs.forM (project.removeDir files journal)
  journal.info .project "Clean complete!"
  return .ok ()

/-- How the bot is started. -/
def launchCommand (mode : RunMode) : Except KeeperError LaunchCommand :=
  match project.npm? with
  | none => .error npmMissing
  | some npm => .ok ⟨npm, ["run", mode.script], project.dir⟩

/-- The tools of the project. -/
def toolchain : Toolchain W where
  npmAvailable := return project.npm?.isSome
  ensureConfigFiles := project.ensureConfigFiles files journal
  ensureDependencies := project.ensureDependencies programs journal
  build := project.build programs journal
  clean := project.clean files journal
  launchCommand mode := return project.launchCommand mode

end BotProject

end BotKeeper
