/-
# Finding processes of the bot

A query is a pattern over the name and the command line of a process, possibly pinned to a
working directory.  The process table is a capability whose listing may fail.
-/
import BotKeeper.Disk.Files
import BotKeeper.Error
import BotKeeper.Pattern.Build
import BotKeeper.Pattern.Size

namespace BotKeeper

/-- One process of the table. -/
structure ProcessEntry where
  pid : Pid
  /-- The name of the program. -/
  name : String
  /-- The arguments separated by blanks. -/
  commandLine : String
  /-- The working directory, where it can be read. -/
  workingDir? : Option String
deriving DecidableEq, Repr

/-- The arguments of a process as one line, separated by blanks.  Empty arguments in front leave
nothing behind. -/
def commandLineOf (args : List SystemText) : String :=
  args.foldl (fun line arg => (if line.isEmpty then line else line ++ " ") ++ arg.display) ""

/-- The capability to list processes in a world `W`. -/
structure ProcessTable (W : Type) where
  /-- The live processes. -/
  snapshot : StateM W (Except KeeperError (List ProcessEntry))
  /-- The process that asks. -/
  ownPid : Pid

/-- A pattern over processes, possibly pinned to a working directory. -/
structure MatchQuery where
  pattern : CompiledPattern
  /-- The directory matching processes run in. -/
  workingDir? : Option String := none

/-- The entry points of the bot: its npm scripts and what they run. -/
def managedPatternText : String :=
  "npm(?:\\.cmd|-cli\\.js)?\\s+run\\s+(?:start|dev)\\b|(?:^|[\\s/\\\\])node(?:\\.exe)?\\s+(?:\\S*[/\\\\])?dist[/\\\\]index\\.js\\b|ts-node\\S*\\s+(?:\\S*[/\\\\])?src[/\\\\]index\\.ts\\b"

namespace MatchQuery

/-- Processes whose name or command line holds a text verbatim. -/
def substring (needle : String) : MatchQuery := { pattern := .literal needle }

/-- Processes whose name or command line matches a pattern.  A pattern that is too large is
refused. -/
def regex (text : String) : Except KeeperError MatchQuery :=
  match CompiledPattern.compile text with
  | .error fault => .error (.pattern text (.malformed fault))
  | .ok p =>
    if p.regex.size ≤ Pattern.sizeLimit then .ok { pattern := p }
    else .error (.pattern text (.tooLarge Pattern.sizeLimit))

/-- The query pinned to the directory a path leads to, or to the path itself if it leads
nowhere. -/
def inDirectory {W : Type} (files : Files W) (q : MatchQuery) (dir : String) :
    StateM W MatchQuery := do
  match ← files.canonical dir with
  | .ok path => return { q with workingDir? := some path }
  | .error _ => return { q with workingDir? := some dir }

/-- The bot's own entry points in a project. -/
def managedBot {W : Type} (files : Files W) (projectDir : String) : StateM W MatchQuery :=
  inDirectory files { pattern := .ofValid managedPatternText } projectDir

/-- Whether a process matches: its command line or name fits the pattern and, for a pinned
query, its working directory can be read and is the wanted one. -/
def matchesEntry (q : MatchQuery) (e : ProcessEntry) : Bool :=
  (q.pattern.isMatch e.commandLine || q.pattern.isMatch e.name)
    && match q.workingDir?, e.workingDir? with
      | some wanted, some actual => Path.same wanted actual
      | some _, none => false
      | none, _ => true

end MatchQuery

/-- The processes in a listing that match, other than the one that asks, in ascending
order. -/
def selectMatching (ownPid : Pid) (q : MatchQuery) (entries : List ProcessEntry) : List Pid :=
  ((entries.filter fun e => e.pid != ownPid && q.matchesEntry e).map (·.pid)).mergeSort
    (fun a b => a ≤ b)

/-- The processes that match, other than the one that asks, in ascending order. -/
def findMatching {W : Type} (table : ProcessTable W) (q : MatchQuery) :
    StateM W (Except KeeperError (List Pid)) := do
  match ← table.snapshot with
  | .error e => return .error e
  | .ok entries => return .ok (selectMatching table.ownPid q entries)

end BotKeeper
