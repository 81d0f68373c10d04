/-
# Running the program

The program reads its command line, settles what is logged and how, resolves the settings
of the project, and carries out the command with the tools of the project.  It ends with
the exit code of the command, or with 1 if it did not get that far.
-/
import BotKeeper.CommandLine.Parse
import BotKeeper.Log.Filter
import BotKeeper.Log.Format
import BotKeeper.Project.Basic
import BotKeeper.Settings.Resolve

namespace BotKeeper

open Log

/-- Settings with the grace period of the command line, if it has one. -/
def Settings.withGracePeriod (s : Settings) (secs? : Option UInt64) : Settings :=
  match secs? with
  | none => s
  | some secs => { s with supervisor := { s.supervisor with gracePeriodSecs := secs } }

namespace CommandLine

/-- What the program has of the system it runs on. -/
structure Host (W : Type) where
  vars : Variables
  workingDir : String
  files : Files W
  programs : Programs W
  /-- Runs the bot of a project in a directory. -/
  supervisor : Journal W → (projectDir : String) → SupervisorSettings → Supervisor W
  /-- Prints to the standard output. -/
  print : String → StateM W Unit
  /-- Prints to the standard error. -/
  complain : String → StateM W Unit

variable {W : Type} (host : Host W)

/-- A journal that prints the events that pass a filter. -/
def Host.journal (filter : Filter) (style : Style) : Journal W where
  record e := if filter.admits e then host.print (e.line style ++ "\n") else return ()

/-- The variables that bear on settings. -/
def settingsEnvironment (vars : Variables) : SettingsEnvironment :=
  let value (key : String) : Option SystemText := (vars.lookup key).map .text
  { configHome := value "XDG_CONFIG_HOME", home := value "HOME"
    gracePeriod := value "VIXEN_GRACE_PERIOD", npm := value "VIXEN_NPM" }

namespace Request

/-- The text of the log filter: a variable goes before the option. -/
def filterText (r : Request) (vars : Variables) : String :=
  (vars.lookup "RUST_LOG").getD r.logLevel

/-- How events are shown. -/
def logStyle (r : Request) : Style := if r.logJson then .json else .words

/-- Carries out a request; yields the exit code. -/
def carryOut (r : Request) : StateM W UInt8 := do
  let filterText := r.filterText host.vars
  (Filter.complaints filterText).forM fun line => host.complain (line ++ "\n")
  let journal := host.journal (.ofText filterText) r.logStyle
  journal.info .main Subject.program.about
  let projectDir := r.projectDir?.getD host.workingDir
  match ← Settings.resolve host.files (settingsEnvironment host.vars) (some projectDir) with
  | .error e =>
    journal.error .main e.toFailure.message
    return 1
  | .ok resolved =>
    let settings := resolved.withGracePeriod r.gracePeriodSecs?
    let npm? ← findNpm host.files host.programs journal settings.npm.binary
    let project : BotProject := ⟨projectDir, npm?, settings.npm.requiredPackages⟩
    let tools := project.toolchain host.files host.programs journal
    tools.execute journal (host.supervisor journal projectDir settings.supervisor) r.command

end Request

/-- Answers when there is nothing to carry out; yields the exit code. -/
def Stop.answer (stop : Stop) : StateM W UInt8 := do
  match stop with
  | .usage e =>
    host.complain e.message
    return 1
  | .help subject =>
    host.print (subject.helpText host.vars)
    return 0
  | .version =>
    host.print versionText
    return 0

/-- Runs the program with the words of a command line; yields the exit code. -/
def run (words : List String) : StateM W UInt8 :=
  match parse host.vars words with
  | .ok request => request.carryOut host
  | .error stop => stop.answer host

end CommandLine

end BotKeeper
