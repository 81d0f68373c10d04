/-
# The program

The command line of the keeper, rehearsed: the command is carried out on a machine of its
own that holds copies of the files the keeper reads, what it says there is printed, and its
exit code is the exit code of the program.  The files of the system stay as they are.
-/
import BotKeeper.CommandLine.Transcript
import BotKeeper.Machine.Setup

namespace BotKeeper

/-- The variables of the environment that the program looks at. -/
def variableNames : List String :=
  ["HOME", "PWD", "RUST_LOG", "VIXEN_GRACE_PERIOD", "VIXEN_LOG_JSON", "VIXEN_LOG_LEVEL",
   "VIXEN_NPM", "VIXEN_PROJECT_DIR", "XDG_CONFIG_HOME"]

/-- The files that the keeper reads when it works on a project. -/
def filesRead (vars : CommandLine.Variables) (projectDir : String) : List String :=
  Settings.filePaths (CommandLine.settingsEnvironment vars) (some projectDir)
    ++ [".env", "package.json", "tsconfig.json"].map (Path.join projectDir)

/-- The variables of the environment that are set. -/
def readVariables : IO CommandLine.Variables :=
  variableNames.filterMapM fun name => do
    return (← IO.getEnv name).map fun value => (name, value)

/-- Copies a file onto a disk if there is one. -/
def copyFile (disk : Disk) (path : String) : IO Disk := do
  try
    return disk.withFile path (← IO.FS.readFile path)
  catch _ =>
    return disk

end BotKeeper

open BotKeeper

/-- Rehearses a command line. -/
def main (args : List String) : IO UInt32 := do
  let vars ← readVariables
  let workingDir := (vars.lookup "PWD").getD "/"
  let projectDir := match CommandLine.parse vars args with
    | .ok request => Path.join workingDir (request.projectDir?.getD workingDir)
    | .error _ => workingDir
  let disk := (Disk.system.createDirAll [] workingDir).toOption.getD Disk.system
  let disk ← (filesRead vars projectDir).foldlM copyFile disk
  let place := (disk.findNode [] workingDir).toOption.elim [] (·.1)
  let machine := Machine.ofDisk disk place vars
  let (transcript, _) := CommandLine.transcribe args machine
  IO.print transcript.output
  IO.eprint transcript.complaints
  return (transcript.code?.getD 1).toUInt32
