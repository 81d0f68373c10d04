/-
# Starting programs

How the system finds and starts a program.  A name without a slash is looked for in the
directories of the search path; a path is followed from the working directory of the new
process.  A file that may be run is a program of the system or a script that names the
program to run it.
-/
import BotKeeper.Machine.Basic
import BotKeeper.Machine.Shell.Reader

namespace BotKeeper.Machine

/-- A program ready to be started. -/
structure Image where
  /-- The program of the system that does the work. -/
  tool : String
  /-- Its command line. -/
  argv : List String
  /-- The name shown in the process table. -/
  name : String
deriving Repr

/-! ## Executing a file -/

/-- A character that separates the words of a script's first line. -/
def isGap (c : Char) : Bool := c == ' ' || c == '\t'

/-- The program that a script names and the one argument it may give it; nothing if the
text is no script. -/
def interpreter? (text : String) : Option (String × Option String) :=
  match text.toList with
  | '#' :: '!' :: rest =>
    let line := ((rest.takeWhile (· != '\n')).dropWhile isGap)
    let line := (line.reverse.dropWhile isGap).reverse
    let program := line.takeWhile (!isGap ·)
    let arg := (line.drop program.length).dropWhile isGap
    if program.isEmpty then none
    else some (String.ofList program, if arg.isEmpty then none else some (String.ofList arg))
  | _ => none

/-- The last name of a path. -/
def lastName (path : String) : String := ((Path.cut path).getLast?).getD path

/-- What executing the file at a path comes to.  `depth` bounds how many scripts may name
one another. -/
def image (disk : Disk) (here : Place) :
    (depth : Nat) → (path : String) → (argv : List String) → Except SystemError Image
  | 0, _, _ => .error .tooManyLinks
  | depth + 1, path, argv => do
    match ← disk.findNode here path with
    | (_, .program tool) => .ok ⟨tool, argv, lastName path⟩
    | (_, .file content true) =>
      match (content.text?).bind interpreter? with
      | none => .error .notExecutableFormat
      | some (program, arg?) =>
        let inner ← image disk here depth program (program :: arg?.toList ++ path :: argv.drop 1)
        .ok { inner with name := lastName path }
    | _ => .error .permissionDenied

/-! ## Finding a program -/

/-- The directories searched when the environment names none. -/
def standardPath : String := "/bin:/usr/bin"

/-- The directories of a search path. -/
def searchDirs (path : String) : List String :=
  (path.toList.splitOn ':').map String.ofList

/-- Tries places one after the other.  A place where there is nothing to run is passed
over; that something may not be run is remembered. -/
def firstImage (disk : Disk) (here : Place) (argv : List String) :
    List String → (denied : Bool) → (last : SystemError) → Except SystemError Image
  | [], denied, last => .error (if denied then .permissionDenied else last)
  | path :: paths, denied, _ =>
    match image disk here 5 path argv with
    | .ok found => .ok found
    | .error .permissionDenied => firstImage disk here argv paths true .permissionDenied
    | .error .notFound => firstImage disk here argv paths denied .notFound
    | .error .notADirectory => firstImage disk here argv paths denied .notADirectory
    | .error e => .error e

/-- The program of a name, looked for along `path`. -/
def locate (disk : Disk) (here : Place) (path : String) (program : String) (args : List String) :
    Except SystemError Image :=
  let argv := program :: args
  if program.isEmpty then .error .notFound
  else if argv.any (131072 ≤ ·.utf8ByteSize) then .error .argumentsTooLong
  else if Path.hasSlash program then image disk here 5 program argv
  else if 255 < program.utf8ByteSize then .error .nameTooLong
  else
    let paths := (searchDirs path).map fun dir =>
      if dir.isEmpty then program else dir ++ "/" ++ program
    firstImage disk here argv paths false .notFound

/-! ## The first state of a process -/

/-- A shell that runs a script, or ends at once if the script is malformed. -/
def scriptState (script name : String) (args : List String) (replaceable : Bool) (pid : Nat) :
    Shell.State where
  frames := match Shell.Command.ofScript script with
    | some c => [.run c]
    | none => [.leave 2]
  name
  args
  mainPid := pid
  replaceable

/-- The state of a shell called with some arguments. -/
def shellState (disk : Disk) (here : Place) (pid : Nat) (self : String) : List String → Shell.State
  | "-c" :: script :: name :: args => scriptState script name args true pid
  | "-c" :: script :: [] => scriptState script self [] true pid
  | "--" :: file :: args => ofFile file args
  | file :: args =>
    if file.startsWith "-" && file != "-" then shellState disk here pid self args
    else ofFile file args
  | [] => scriptState "" self [] false pid
where
  /-- The state of a shell that runs the script in a file. -/
  ofFile (file : String) (args : List String) : Shell.State :=
    match disk.read here file with
    | .ok content => scriptState content.display file args false pid
    | .error _ => { frames := [.leave 2], name := file, mainPid := pid }

/-- The programs that are shells. -/
def shells : List String := ["sh", "dash", "bash"]

/-- What a new process does. -/
def Image.body (i : Image) (m : Machine) (here : Place) (environment : List (String × String))
    (pid parent : Nat) : Body :=
  if shells.contains i.tool then
    let s := shellState m.disk here pid (i.argv.head?.getD "sh") (i.argv.drop 1)
    .shell
      { s with
        vars := environment ++ [("PPID", toString parent), ("PWD", Path.absolute here)]
        exported := environment.map (·.1) }
  else .tool i.tool (i.argv.drop 1)

/-- What a new process takes from the one that starts it. -/
structure Start where
  parent : Nat
  /-- The group it joins; none if it leads one of its own. -/
  group? : Option Nat
  place : Place
  channels : Channels
  environment : List (String × String)
  ignored : List Signal := []
  largestFile? : Option Nat := none

/-- Starts a program; yields its pid. -/
def start (m : Machine) (image : Image) (s : Start) : Machine × Nat :=
  m.add fun pid =>
    { pid, parent := s.parent
      group := s.group?.getD pid
      name := String.ofList (image.name.toList.take 15)
      argv := image.argv
      place := s.place
      channels := s.channels
      environment := s.environment
      ignored := s.ignored
      largestFile? := s.largestFile?
      body := image.body m s.place s.environment pid s.parent }

/-- Lets a process go on as another program. -/
def replace (m : Machine) (p : Process) (image : Image) (environment : List (String × String)) :
    Machine :=
  m.revise p.pid fun p =>
    { p with
      name := String.ofList (image.name.toList.take 15)
      argv := image.argv
      environment
      body := image.body m p.place environment p.pid p.parent }

end BotKeeper.Machine
