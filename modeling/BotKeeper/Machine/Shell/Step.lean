/-
# Steps of a shell

A shell takes one frame off its stack at a time.  Commands of the shell itself are carried
out in place; any other command is a process of its own, for which the shell waits.  The
trap of a signal runs between two commands.
-/
import BotKeeper.Machine.Shell.Expand
import BotKeeper.Machine.Tools

namespace BotKeeper.Machine.Shell

/-- A step of the shell with some pid. -/
abbrev Act := ReaderT Nat (StateM Machine)

namespace Act

/-! ## The shell and its process -/

/-- The process of the shell, unless it has ended. -/
def process? : Act (Option Process) := do return (← get).process? (← read)

/-- The state of the shell, unless it has ended. -/
def state? : Act (Option State) := do
  match ← process? with
  | some p =>
    match p.body with
    | .shell s => return some s
    | _ => return none
  | none => return none

/-- Changes the state of the shell. -/
def change (f : State → State) : Act Unit := do
  let pid ← read
  modify fun m => m.revise pid fun p =>
    match p.body with
    | .shell s => { p with body := .shell (f s) }
    | _ => p

/-- Changes the process of the shell. -/
def changeProcess (f : Process → Process) : Act Unit := do
  let pid ← read
  modify fun m => m.revise pid f

/-- Puts a frame on the stack. -/
def push (frame : Frame) : Act Unit := change fun s => { s with frames := frame :: s.frames }

/-- Notes the outcome of a command. -/
def setStatus (status : Nat) : Act Unit := change fun s => { s with status }

/-- Prints octets to a descriptor of the shell. -/
def say (descriptor : Nat) (octets : Octets) : Act Unit := do
  match (← process?).bind (·.channels.lookup descriptor) with
  | some channel => modify fun m => m.print channel octets
  | none => return

/-- Prints a complaint of the shell. -/
def complain (text : String) : Act Unit := do
  let name := ((← state?).map (·.name)).getD "sh"
  say 2 (Utf8.encode s!"{name}: 1: {text}\n")

/-- The surroundings of a small program run by the shell. -/
def around (p : Process) (s : State) (m : Machine) (input : Octets) : Around :=
  { disk := m.disk, place := p.place, environment := s.environment, input }

/-! ## Redirections -/

/-- Where a path leads when it is opened.  Opening a file for writing empties it unless
`keep` says otherwise. -/
def openPath (m : Machine) (here : Place) (path : String) (kind : RedirectKind) :
    Except SystemError (Machine × Channel) := do
  let writing := kind == .output || kind == .append
  let found ← m.disk.find here path
  match found.node? with
  | none =>
    if kind == .input then .error .notFound
    else
      let disk ← m.disk.write here path (.text "")
      .ok ({ m with disk }, .file found.place)
  | some .directory =>
    if kind == .input then .ok (m.openText []) else .error .isADirectory
  | some .pipe => .ok (m, .pipe found.place)
  | some (.file content runnable) =>
    if kind == .output then
      .ok ({ m with disk := m.disk.put found.place (.file (.text "") runnable) }, .file found.place)
    else if writing || kind == .both then .ok (m, .file found.place)
    else .ok (m.openText content.toOctets)
  | some _ => .ok (m, .nowhere)

/-- Carries out redirections one after the other; yields whether all succeeded. -/
def redirectAll (s : State) : List Redirect → Act Bool
  | [] => return true
  | r :: rest => do
    let target := textOf s r.target
    match ← process? with
    | none => return false
    | some p =>
      match r.kind with
      | .duplicate =>
        if target == "-" then
          changeProcess fun p => { p with channels := p.channels.assign r.descriptor none }
          redirectAll s rest
        else
          match p.channels.lookup (digitsValue target.toList) with
          | some channel =>
            changeProcess fun p =>
              { p with channels := p.channels.assign r.descriptor (some channel) }
            redirectAll s rest
          | none =>
            complain s!"{target}: Bad file descriptor"
            return false
      | kind =>
        match openPath (← get) p.place target kind with
        | .ok (m, channel) =>
          set m
          changeProcess fun p =>
            { p with channels := p.channels.assign r.descriptor (some channel) }
          redirectAll s rest
        | .error e =>
          let reason := match e with
            | .notFound => if kind == RedirectKind.input then "No such file" else "Directory nonexistent"
            | _ => e.words
          complain (if kind == RedirectKind.input then s!"cannot open {target}: {reason}"
            else s!"cannot create {target}: {reason}")
          return false

/-! ## Leaving -/

/-- Ends the shell, running the trap for its end first. -/
def leave (code : Nat) : Act Unit := do
  match ← state? with
  | none => return
  | some s =>
    match s.traps.lookup 0 with
    | some (some c) =>
      change fun s =>
        { s with
          frames := [.run c, .leave code]
          traps := s.traps.filter (·.1 != 0)
          status := code
          waiting? := none }
    | _ =>
      let pid ← read
      modify fun m => m.finish pid (.exited (.ofNat code))

/-! ## Commands of the shell itself -/

/-- The loops that `break` and `continue` leave behind: drops frames down to the loop of a
level. -/
def dropToLoop : (level : Nat) → List Frame → List Frame
  | _, [] => []
  | level, frame :: rest =>
    if frame.isLoop then if level ≤ 1 then frame :: rest else dropToLoop (level - 1) rest
    else dropToLoop level rest

/-- Sets or resets the traps of signals. -/
def setTraps (action : Option (Option Command)) (names : List String) : Act Unit := do
  let ignored := ((← process?).map (·.ignored)).getD []
  for name in names do
    let signal? := if name == "EXIT" then some 0 else Signal.ofName? name
    match signal? with
    | none =>
      complain s!"trap: {name}: bad trap"
      setStatus 1
    | some signal =>
      if !ignored.contains signal then
        change fun s =>
          let others := s.traps.filter (·.1 != signal)
          { s with traps := match action with
              | some a => (signal, a) :: others
              | none => others }

/-- The command `trap`. -/
def trap (args : List String) : Act Unit := do
  setStatus 0
  match args with
  | [] => return
  | [name] => setTraps none [name]
  | action :: names =>
    if action == "-" then setTraps none names
    else if action.isEmpty then setTraps (some none) names
    else if (action.toList.all Char.isDigit) then setTraps none (action :: names)
    else
      match Command.ofScript action with
      | some c => setTraps (some (some c)) names
      | none => setStatus 2

/-- Sends a signal to a target as it is written: a process, or a group behind a minus. -/
def sendTo (signal : Signal) (target : String) : Act Bool := do
  let group := target.startsWith "-"
  let digits := if group then (target.drop 1).toString else target
  match digits.toNat? with
  | none =>
    complain s!"kill: Illegal number: {target}"
    return false
  | some n =>
    let m ← get
    let own := (← process?).map (·.group)
    let result :=
      if n == 0 then own.bind fun g => m.killGroup g signal
      else if group then m.killGroup n signal
      else m.kill n signal
    match result with
    | some m =>
      set m
      return true
    | none =>
      complain "kill: No such process"
      return false

/-- Sends a signal to each target. -/
def sendAll (signal : Signal) (targets : List String) : Act Unit := do
  setStatus 0
  for target in targets do
    if !(← sendTo signal target) then
      setStatus 1

/-- The command `kill`. -/
def kill (args : List String) : Act Unit := do
  let send (name : String) (targets : List String) : Act Unit := do
    let targets := if targets.head? == some "--" then targets.drop 1 else targets
    match Signal.ofName? name with
    | some signal => sendAll signal targets
    | none =>
      complain s!"kill: invalid signal number or name: {name}"
      setStatus 2
  match args with
  | "-s" :: name :: targets => send name targets
  | "--" :: targets => sendAll Signal.terminate targets
  | first :: targets =>
    if first.startsWith "-" then send (first.drop 1).toString targets
    else sendAll Signal.terminate (first :: targets)
  | [] => setStatus 2

/-- Cuts a line into variables; the last one takes what is left. -/
def fillVariables : List String → List Char → State → State
  | [], _, s => s
  | [name], cs, s =>
    let value := (cs.dropWhile isSeparator).reverse.dropWhile isSeparator
    s.assign name (String.ofList value.reverse)
  | name :: names, cs, s =>
    let cs := cs.dropWhile isSeparator
    let field := cs.takeWhile (!isSeparator ·)
    fillVariables names (cs.drop field.length) (s.assign name (String.ofList field))

/-- Reads a line into variables. -/
def readLine (descriptor : Nat) (names : List String) : Act Unit := do
  match (← process?).bind (·.channels.lookup descriptor) with
  | none => setStatus 2
  | some channel =>
    let (m, line?) := (← get).takeLine channel
    set m
    match line? with
    | none =>
      change fun s => names.foldl (fun s name => s.assign name "") s
      setStatus 1
    | some line =>
      change fun s => fillVariables names (Utf8.decodeLossy line).toList s
      setStatus 0

/-- The command `read`: waits for a line if none can be read yet. -/
def readCommand (args : List String) : Act Unit := do
  let names := (Tool.cutOptions args).2
  match (← process?).bind (·.channels.lookup 0) with
  | none => setStatus 2
  | some channel =>
    if (← get).isReadable channel then readLine 0 names
    else change fun s => { s with waiting? := some (.input 0 names) }

/-- The command `cd`. -/
def changeDirectory (args : List String) : Act Unit := do
  match ← process?, ← state? with
  | some p, some s =>
    let target := (args.head?).getD ((s.valueOf? "HOME").getD "/")
    match (← get).disk.findNode p.place target with
    | .ok (place, .directory) =>
      changeProcess fun p => { p with place }
      change fun s => s.assign "PWD" (Path.absolute place)
      setStatus 0
    | _ =>
      complain s!"cd: can't cd to {target}"
      setStatus 2
  | _, _ => return

/-- The command `export`. -/
def exportNames (args : List String) : Act Unit := do
  for arg in args do
    let name := arg.toList.takeWhile isNameChar
    change fun s =>
      let s := match arg.toList.drop name.length with
        | '=' :: value => s.assign (String.ofList name) (String.ofList value)
        | _ => s
      { s with exported := String.ofList name :: s.exported }
  setStatus 0

/-- The number an argument stands for. -/
def countArg (args : List String) (default : Nat) : Nat := ((args.head?).bind (·.toNat?)).getD default

/-- The command `ulimit`, which is given the largest size of a file in blocks of 512
octets. -/
def limitFiles (args : List String) : Act Unit := do
  match args with
  | ["-f", size] => changeProcess fun p => { p with largestFile? := size.toNat?.map (512 * ·) }
  | _ => return
  setStatus 0

/-- A command carried out in place by a small program. -/
def inPlace (name : String) (args : List String) : Act Unit := do
  match ← process?, ← state? with
  | some p, some s =>
    let m ← get
    let done : Done := match name with
      | "echo" => { disk := m.disk, output := Tool.echoOctets true args }
      | _ => Tool.run (around p s m []) name args
    modify fun m => { m with disk := done.disk }
    say 1 done.output
    say 2 done.complaints
    setStatus done.status
  | _, _ => return

/-- The commands carried out in place. -/
def ownCommands : List String :=
  [":", "true", "false", "exit", "return", "break", "continue", "trap", "kill", "read", "cd",
   "export", "set", "shift", "unset", "wait", "eval", ".", "ulimit", "umask", "echo", "printf",
   "pwd", "test", "["]

/-- Carries out a command in place.  `old` is where the descriptors led before its
redirections, which last as long as the command. -/
def runOwn (name : String) (args : List String) : Act Unit := do
  match name with
  | ":" | "true" | "umask" => setStatus 0
  | "ulimit" => limitFiles args
  | "false" => setStatus 1
  | "exit" | "return" =>
    let status := ((← state?).map (·.status)).getD 0
    leave (countArg args status % 256)
  | "break" =>
    change fun s => { s with frames := (dropToLoop (countArg args 1) s.frames).drop 1, status := 0 }
  | "continue" =>
    change fun s => { s with frames := dropToLoop (countArg args 1) s.frames, status := 0 }
  | "trap" => trap args
  | "kill" => kill args
  | "read" => readCommand args
  | "cd" => changeDirectory args
  | "export" => exportNames args
  | "set" =>
    if args.head? == some "--" then change fun s => { s with args := args.drop 1 }
    else if !(args.head?.any (·.startsWith "-")) && !args.isEmpty then
      change fun s => { s with args }
    setStatus 0
  | "shift" => change fun s => { s with args := s.args.drop (countArg args 1), status := 0 }
  | "unset" =>
    change fun s => { s with vars := s.vars.filter fun v => !args.contains v.1, status := 0 }
  | "wait" =>
    let jobs := ((← state?).map (·.jobs)).getD []
    let pids := if args.isEmpty then jobs else args.filterMap (·.toNat?)
    change fun s => { s with waiting? := some (.jobs pids), status := 0 }
  | "eval" =>
    match Command.ofScript (String.intercalate " " args) with
    | some c => push (.run c)
    | none => setStatus 2
  | "." =>
    match ← process?, args.head? with
    | some p, some path =>
      match (← get).disk.readText p.place path with
      | .ok script =>
        match Command.ofScript script with
        | some c => push (.run c)
        | none => setStatus 2
      | .error _ =>
        complain s!".: cannot open {path}: No such file"
        leave 2
    | _, _ => return
  | _ => inPlace name args

/-! ## Processes started by the shell -/

/-- Starts a copy of the shell that runs one command; yields its pid. -/
def fork (c : Command) (background : Bool) : Act Nat := do
  let parent ← read
  match ← process?, ← state? with
  | some p, some s =>
    let ignored := s.traps.filterMap fun t => if t.2.isNone then some t.1 else none
    let quiet := if background then [Signal.interrupt, Signal.quit] else []
    let channels := if background then p.channels.assign 0 (some .nowhere) else p.channels
    let (m, pid) := (← get).add fun pid =>
      { p with
        pid, parent
        channels
        ignored := p.ignored ++ quiet
        body := .shell
          { s with
            frames := [.run c]
            traps := ignored.map fun signal => (signal, none)
            pending := []
            waiting? := none
            jobs := []
            replaceable := true } }
    set m
    return pid
  | _, _ => return 0

/-- Waits for a process in the foreground. -/
def await (pid : Nat) : Act Unit := change fun s => { s with waiting? := some (.child pid) }

/-- The signals that programs started by a shell have no ears for. -/
def inheritedIgnored (p : Process) (s : State) : List Signal :=
  p.ignored ++ s.traps.filterMap fun t => if t.2.isNone then some t.1 else none

/-- Runs a program, in the place of the shell if `inPlaceOfShell` says so. -/
def runProgram (assignments : List (String × String)) (words : List String)
    (inPlaceOfShell : Bool) : Act Unit := do
  match ← process?, ← state?, words with
  | some p, some s, name :: args =>
    let environment := assignments ++ s.environment.filter fun v =>
      !(assignments.map (·.1)).contains v.1
    let path := (s.valueOf? "PATH").getD standardPath
    let m ← get
    let go (image : Image) : Act Unit := do
      if inPlaceOfShell then
        modify fun m => (m.revise p.pid fun p => { p with ignored := inheritedIgnored p s }).replace
          { p with ignored := inheritedIgnored p s } image environment
      else
        let (m, pid) := (← get).start image
          { parent := p.pid, group? := some p.group, place := p.place, channels := p.channels
            environment, ignored := inheritedIgnored p s, largestFile? := p.largestFile? }
        set m
        await pid
    match locate m.disk p.place path name args with
    | .ok image => go image
    | .error .notExecutableFormat =>
      let file := if Path.hasSlash name then name
        else (Tool.whichPath? (around p s m []) name).getD name
      go { tool := "sh", argv := "sh" :: file :: args, name := lastName name }
    | .error e =>
      let (reason, status) := match e with
        | .notFound | .notADirectory => ("not found", 127)
        | e => (e.words, 126)
      complain s!"{name}: {reason}"
      if inPlaceOfShell then leave status else setStatus status
  | _, _, _ => return

/-! ## Frames -/

/-- Runs a simple command. -/
def simple (assignments : List (String × Word)) (words : List Word) (redirects : List Redirect) :
    Act Unit := do
  match ← process?, ← state? with
  | some p, some s =>
    let fields := words.flatMap (fieldsOf s)
    let values := assignments.map fun a => (a.1, textOf s a.2)
    let old := p.channels
    let restore : Act Unit := changeProcess fun p => { p with channels := old }
    if !(← redirectAll s redirects) then
      restore
      setStatus 2
    else
      match fields with
      | [] =>
        change fun s =>
          { values.foldl (fun s v => s.assign v.1 v.2) s with status := 0 }
        restore
      | "exec" :: [] => setStatus 0
      | "exec" :: rest => runProgram values rest true
      | name :: args =>
        if ownCommands.contains name then
          change fun s => values.foldl (fun s v => s.assign v.1 v.2) s
          if name == "read" then
            if redirects.isEmpty then readCommand args
            else
              push (.restore old)
              readCommand args
          else
            runOwn name args
            restore
        else
          let last := s.replaceable && s.frames.isEmpty && s.traps.all (·.2.isNone)
          runProgram values fields last
          restore
  | _, _ => return

/-- The first arm whose pattern a text fits. -/
def selectArm (s : State) (text : List Char) : List (List Word × Command) → Option Command
  | [] => none
  | (patterns, c) :: arms =>
    if patterns.any fun p => fitsPattern (patternOf s p) text then some c
    else selectArm s text arms

/-- Runs a command inside redirections. -/
def within (redirects : List Redirect) (frame : Frame) : Act Unit := do
  if redirects.isEmpty then push frame
  else
    match ← process?, ← state? with
    | some p, some s =>
      let old := p.channels
      if ← redirectAll s redirects then
        push (.restore old)
        push frame
      else
        changeProcess fun p => { p with channels := old }
        setStatus 2
    | _, _ => return

/-- Begins to run a command. -/
def begin (c : Command) : Act Unit := do
  match c with
  | .nothing => return
  | .simple assignments words redirects => simple assignments words redirects
  | .sequence a b =>
    push (.run b)
    push (.run a)
  | .both a b =>
    push (.andThen b)
    push (.run a)
  | .either a b =>
    push (.orElse b)
    push (.run a)
  | .negated a =>
    push .negate
    push (.run a)
  | .background a =>
    let pid ← fork a true
    change fun s => { s with lastJob? := some pid, jobs := pid :: s.jobs, status := 0 }
  | .subshell a redirects => await (← fork (.group a redirects) false)
  | .group a redirects => within redirects (.run a)
  | .branch test yes no =>
    push (.choose yes no)
    push (.run test)
  | .loop test expect body =>
    push (.tested test expect body)
    push (.run test)
  | .forEach name words body =>
    match ← state? with
    | some s => push (.forEach name (words.flatMap (fieldsOf s)) body)
    | none => return
  | .select subject arms =>
    match ← state? with
    | some s =>
      setStatus 0
      match selectArm s (textOf s subject).toList arms with
      | some c => push (.run c)
      | none => return
    | none => return

/-- Takes up one frame. -/
def resume (frame : Frame) (status : Nat) : Act Unit := do
  match frame with
  | .run c => begin c
  | .andThen c => if status == 0 then push (.run c)
  | .orElse c => if status != 0 then push (.run c)
  | .negate => setStatus (if status == 0 then 1 else 0)
  | .choose yes no =>
    setStatus 0
    push (.run (if status == 0 then yes else no))
  | .tested test expect body =>
    if (status == 0) == expect then
      push (.looped test expect body)
      push (.run body)
    else setStatus 0
  | .looped test expect body =>
    push (.tested test expect body)
    push (.run test)
  | .forEach name words body =>
    match words with
    | [] => return
    | w :: rest =>
      change fun s => s.assign name w
      push (.forEach name rest body)
      push (.run body)
  | .restore channels => changeProcess fun p => { p with channels }
  | .afterTrap old => setStatus old
  | .leave code => leave code

/-- The outcome a status leaves in a shell. -/
def outcome : ExitStatus → Nat
  | .exited code => code.toNat
  | .signaled signal => 128 + signal

/-- Runs the trap of the next signal that has arrived, if it has one. -/
def runTrap (s : State) (signal : Signal) (rest : List Signal) : Act Unit := do
  change fun s => { s with pending := rest }
  match s.traps.lookup signal with
  | some (some c) =>
    push (.afterTrap s.status)
    push (.run c)
  | _ => return

/-- Ends a wait whose time has come. -/
def endWait (s : State) (w : Waiting) : Act Unit := do
  change fun s => { s with waiting? := none }
  let m ← get
  match w with
  | .child pid =>
    match m.exitStatus? pid with
    | some status =>
      modify fun m => m.forget pid
      setStatus (outcome status)
    | none => return
  | .input descriptor names =>
    let channel? := (← process?).bind (·.channels.lookup descriptor)
    if channel?.any m.isReadable then readLine descriptor names
    else setStatus 1
  | .jobs pids =>
    match s.pending with
    | signal :: _ => setStatus (128 + signal)
    | [] =>
      for pid in pids do
        match m.exitStatus? pid with
        | some status =>
          modify fun m => m.forget pid
          setStatus (outcome status)
        | none => setStatus 127
      change fun s => { s with jobs := s.jobs.filter fun j => !pids.contains j }

/-- One step of a shell that does not have to wait. -/
def step : Act Unit := do
  match ← state? with
  | none => return
  | some s =>
    match s.waiting? with
    | some w => endWait s w
    | none =>
      match s.pending with
      | signal :: rest => runTrap s signal rest
      | [] =>
        match s.frames with
        | [] => leave s.status
        | frame :: rest =>
          change fun s => { s with frames := rest }
          resume frame s.status

end Act

/-- Whether a shell has to wait. -/
def State.isWaiting (m : Machine) (p : Process) (s : State) : Bool :=
  match s.waiting? with
  | none => false
  | some (.child pid) => (m.process? pid).any Process.isLive
  | some (.input descriptor _) =>
    s.pending.isEmpty && (p.channels.lookup descriptor).any fun c => !m.isReadable c
  | some (.jobs pids) =>
    s.pending.isEmpty && pids.any fun pid => (m.process? pid).any Process.isLive

end BotKeeper.Machine.Shell
