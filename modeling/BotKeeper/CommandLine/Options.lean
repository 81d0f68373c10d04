/-
# Options and commands

The words that the command line knows: its commands, and the options of the program and of
each command.  An option of the program may also be given behind a command; some can come
from the environment.
-/

namespace BotKeeper.CommandLine

/-! ## Options -/

/-- An option. -/
inductive Opt where
  | projectDir
  | gracePeriod
  | logLevel
  | logJson
  | skipBuild
  | forceClean
  | help
  | version
deriving DecidableEq, Repr

namespace Opt

/-- The name of an option behind two dashes. -/
def long : Opt → String
  | projectDir => "project-dir"
  | gracePeriod => "grace-period"
  | logLevel => "log-level"
  | logJson => "log-json"
  | skipBuild => "skip-build"
  | forceClean => "force-clean"
  | help => "help"
  | version => "version"

/-- The letter of an option behind one dash. -/
def short? : Opt → Option Char
  | help => some 'h'
  | version => some 'V'
  | _ => none

/-- What stands for the value of an option that takes one. -/
def valueName? : Opt → Option String
  | projectDir => some "PROJECT_DIR"
  | gracePeriod => some "GRACE_PERIOD"
  | logLevel => some "LOG_LEVEL"
  | _ => none

/-- The environment variable of an option. -/
def environmentKey? : Opt → Option String
  | projectDir => some "VIXEN_PROJECT_DIR"
  | logLevel => some "VIXEN_LOG_LEVEL"
  | logJson => some "VIXEN_LOG_JSON"
  | _ => none

/-- The value of an option that is not given. -/
def default? : Opt → Option String
  | logLevel => some "info"
  | _ => none

/-- The values that the environment may give to an option without a value of its own. -/
def choices : Opt → List String
  | logJson => ["true", "false"]
  | _ => []

/-- What an option is for. -/
def about : Opt → String
  | projectDir => "Bot project directory (defaults to the current directory)"
  | gracePeriod => "Seconds to wait for the bot to stop before killing it"
  | logLevel => "Log level filter (e.g. \"info\", \"debug\", \"warn\")"
  | logJson => "Output logs as JSON"
  | skipBuild => "Skip building"
  | forceClean => "Force clean before building"
  | help => "Print help"
  | version => "Print version"

/-- An option as it is written, with what stands for its value. -/
def display (o : Opt) : String :=
  match o.valueName? with
  | some name => "--" ++ o.long ++ " <" ++ name ++ ">"
  | none => "--" ++ o.long

end Opt

/-! ## Commands -/

/-- A command. -/
inductive Verb where
  | init
  | build
  | start
  | dev
  | clean
deriving DecidableEq, Repr

namespace Verb

/-- The commands in order. -/
def all : List Verb := [init, build, start, dev, clean]

/-- The word of a command. -/
def word : Verb → String
  | init => "init"
  | build => "build"
  | start => "start"
  | dev => "dev"
  | clean => "clean"

/-- What a command does. -/
def about : Verb → String
  | init => "Initialize/check all required files and dependencies"
  | build => "Only build the TypeScript code"
  | start => "Build and run the bot"
  | dev => "Run in development mode (ts-node)"
  | clean => "Remove build artifacts and installed packages"

/-- The command of a word. -/
def ofWord? (w : String) : Option Verb := all.find? (·.word == w)

end Verb

/-- The word that asks for help. -/
def helpWord : String := "help"

/-- What the word that asks for help does. -/
def helpAbout : String := "Print this message or the help of the given subcommand(s)"

/-- What words and options belong to. -/
inductive Subject where
  | program
  | command (verb : Verb)
  /-- The word that asks for help. -/
  | help
deriving DecidableEq, Repr

namespace Subject

/-- The name of the program. -/
def programName : String := "vixen"

/-- The words that lead to a subject. -/
def path : Subject → String
  | program => programName
  | command verb => programName ++ " " ++ verb.word
  | help => programName ++ " " ++ helpWord

/-- What a subject is for. -/
def about : Subject → String
  | program => "The Vixen - Discord Bot Manager"
  | command verb => verb.about
  | help => helpAbout

/-- The options of a subject, in the order in which help lists them. -/
def options : Subject → List Opt
  | program => [.projectDir, .gracePeriod, .logLevel, .logJson, .help, .version]
  | command .start =>
    [.projectDir, .skipBuild, .forceClean, .gracePeriod, .logLevel, .logJson, .help]
  | command .build => [.forceClean, .projectDir, .gracePeriod, .logLevel, .logJson, .help]
  | command _ => [.projectDir, .gracePeriod, .logLevel, .logJson, .help]
  | help => []

/-- The option of a subject with a name. -/
def optionOf? (s : Subject) (name : String) : Option Opt := s.options.find? (·.long == name)

/-- The option of a subject with a letter. -/
def optionOfLetter? (s : Subject) (c : Char) : Option Opt := s.options.find? (·.short? == some c)

/-- The words that lead on from a subject. -/
def subwords : Subject → List String
  | program => Verb.all.map (·.word) ++ [helpWord]
  | _ => []

/-- Where a word leads from a subject. -/
def next? (s : Subject) (w : String) : Option Subject :=
  match s with
  | program => if w == helpWord then some .help else (Verb.ofWord? w).map .command
  | _ => none

end Subject

end BotKeeper.CommandLine
