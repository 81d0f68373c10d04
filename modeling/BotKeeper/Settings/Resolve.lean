/-
# Resolving settings

Settings come from the built-in defaults, the global file, the file of the project and the
environment, each overriding the ones before.  A file that does not exist is passed over; a
file that cannot be read or understood ends the resolution.
-/
import BotKeeper.Disk.Files
import BotKeeper.Error
import BotKeeper.Settings.Format
import BotKeeper.Text.Numeral

namespace BotKeeper

/-- The variables of the environment that bear on settings; none means unset. -/
structure SettingsEnvironment where
  /-- The directory of configuration files. -/
  configHome : Option SystemText := none
  /-- The home directory of the operator. -/
  home : Option SystemText := none
  /-- The grace period in seconds. -/
  gracePeriod : Option SystemText := none
  /-- The npm program. -/
  npm : Option SystemText := none
deriving DecidableEq, Repr

namespace SettingsEnvironment

/-- The text of a variable; one that is no text counts as unset. -/
def text? (value : Option SystemText) : Option String := value.bind SystemText.text?

/-- The global settings file. -/
def globalPath? (env : SettingsEnvironment) : Option String :=
  let base := (text? env.configHome).orElse fun _ =>
    (text? env.home).map fun home => Path.join home ".config"
  base.map fun dir => Path.join (Path.join dir "vixen") "settings.json"

/-- Settings with the variables of the environment laid over them. -/
def override (env : SettingsEnvironment) (s : Settings) : Settings :=
  let s := match (text? env.gracePeriod).map Numeral.readUInt64 with
    | some (.ok secs) => { s with supervisor := { s.supervisor with gracePeriodSecs := secs } }
    | _ => s
  match text? env.npm with
  | some "" => s
  | some path => { s with npm := { s.npm with binary := some (.text path) } }
  | none => s

end SettingsEnvironment

/-- The settings file of a project. -/
def projectSettingsPath (projectDir : String) : String :=
  Path.join (Path.join projectDir stateDirName) "settings.json"

namespace Settings

variable {W : Type}

/-- The layer in a settings file. -/
def readLayer (files : Files W) (path : String) : StateM W (Except KeeperError SettingsLayer) := do
  match ← files.readText path with
  | .error e =>
    return .error (.settings s!"Failed to read settings file {path}: {e.message}")
  | .ok text =>
    match SettingsLayer.ofJson text with
    | .error f =>
      return .error (.settings s!"Failed to parse settings file {path}: {f.message}")
    | .ok layer => return .ok layer

/-- Settings overlaid by each file that exists, in order. -/
def overlayFiles (files : Files W) : Settings → List String →
    StateM W (Except KeeperError Settings)
  | s, [] => return .ok s
  | s, path :: paths => do
    if ← files.isPresent path then
      match ← readLayer files path with
      | .error e => return .error e
      | .ok layer => overlayFiles files (s.overlay layer) paths
    else overlayFiles files s paths

/-- The settings files in order, lowest priority first. -/
def filePaths (env : SettingsEnvironment) (projectDir? : Option String) : List String :=
  env.globalPath?.toList ++ (projectDir?.map projectSettingsPath).toList

/-- The settings for a project. -/
def resolve (files : Files W) (env : SettingsEnvironment) (projectDir? : Option String) :
    StateM W (Except KeeperError Settings) := do
  match ← overlayFiles files builtin (filePaths env projectDir?) with
  | .error e => return .error e
  | .ok s => return .ok (env.override s)

end Settings

end BotKeeper
