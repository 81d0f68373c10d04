/-
# The keeper on a machine

The capabilities that the keeper has on a machine: working on files, running programs,
listing and signalling processes, starting the bot, and hearing the operator.  Each acts on
a machine that is part of some larger world.
-/
import BotKeeper.Machine.Schedule
import BotKeeper.Process.Query
import BotKeeper.Process.TaskKill
import BotKeeper.Project.Supervision

namespace BotKeeper

namespace Machine

/-! ## Starting programs -/

/-- Whether a text holds a NUL character. -/
def hasNul (s : String) : Bool := s.toList.contains (Char.ofNat 0)

/-- The program that the keeper would start, and the directory it would run in. -/
def prepare (m : Machine) (program : SystemText) (args : List String) (dir? : Option String) :
    Except SystemError (Image × Place) := do
  let hasNulOctet := program.toOctets.contains 0
  if hasNulOctet || args.any hasNul || dir?.any hasNul then
    .error .nulInCommand
  else
    let place ← match dir? with
      | none => .ok m.keeperPlace
      | some dir => do
        match ← m.disk.findNode m.keeperPlace dir with
        | (place, .directory) => .ok place
        | _ => .error .notADirectory
    let path := (m.environment.lookup "PATH").getD standardPath
    match program with
    | .text name =>
      let image ← locate m.disk place path name args
      .ok (image, place)
    | .octets _ => .error .notFound

/-- Runs a program to its end: until it has ended and nobody can print for it any more. -/
def runProgram (m : Machine) (program : SystemText) (args : List String) (dir? : Option String) :
    Except SystemError ProgramOutput × Machine :=
  match m.prepare program args dir? with
  | .error e => (.error e, m)
  | .ok (image, place) =>
    let (m, output) := m.newSink
    let (m, complaints) := m.newSink
    let (m, pid) := m.start image
      { parent := m.keeper, group? := some m.keeper, place
        channels := [(0, .nowhere), (1, .sink output), (2, .sink complaints)]
        environment := m.environment }
    let isOver (m : Machine) : Bool :=
      !m.isAlive pid && !m.isHeld output && !m.isHeld complaints
    let m := m.runUntil isOver none instants
    let status := (m.exitStatus? pid).getD (.exited 0)
    (.ok ⟨status, m.printed output, m.printed complaints⟩, m.forget pid)

/-- Starts the bot as the leader of a group of its own. -/
def launch (m : Machine) (command : LaunchCommand) : Except SystemError Nat × Machine :=
  match m.prepare command.program command.args (some command.workingDir) with
  | .error e => (.error e, m)
  | .ok (image, place) =>
    let (m, pid) := m.start image
      { parent := m.keeper, group? := none, place, channels := m.keeperChannels
        environment := m.environment }
    (.ok pid, m)

/-! ## Listing processes -/

/-- A command line as one line.  The table shows its words without the blanks at their
ends, and empty words not at all. -/
def joinWords (words : List String) : String :=
  commandLineOf (((words.map (·.trimAscii.toString)).filter (!·.isEmpty)).map .text)

/-- The processes that have not ended, as the table shows them. -/
def entries (m : Machine) : List ProcessEntry :=
  (m.processes.filter Process.isLive).map fun p =>
    { pid := .ofNat p.pid
      name := p.name
      commandLine := joinWords p.argv
      workingDir? := some (Path.absolute p.place) }

/-! ## Signals -/

/-- Whether a request goes to one process or to its group. -/
inductive Scope where
  | process
  | group
deriving DecidableEq, Repr

/-- The name of a scope. -/
def Scope.name : Scope → String
  | process => "Process"
  | group => "Group"

/-- Sends a signal to a pid or to the group it leads. -/
def send (m : Machine) (scope : Scope) (pid : Pid) (signal : Signal) : Delivery × Machine :=
  if 0x80000000 ≤ pid.toNat then (.failed s!"pid {pid} out of range", m)
  else
    let result := match scope with
      | .process => m.kill pid.toNat signal
      | .group => m.killGroup pid.toNat signal
    match result with
    | some m => (.delivered, m)
    | none => (.noSuchProcess, m)

variable {W : Type} (part : Lens W Machine)

/-- An action on the machine of a world. -/
def act {α : Type} (f : Machine → α × Machine) : StateM W α := fun w =>
  let (a, m) := f (part.get w)
  (a, part.set m w)

/-! ## Capabilities -/

/-- Works on the files of a machine. -/
def files (here : Place) : Files W :=
  .ofDisk ⟨fun w => (part.get w).disk,
    fun d w => part.set { part.get w with disk := d } w⟩ here

/-- Runs programs on a machine. -/
def programs : Programs W where
  run program args dir? := act part fun m => m.runProgram program args dir?

/-- Lists the processes of a machine. -/
def table (ownPid : Pid) : ProcessTable W where
  snapshot := fun w => (.ok (part.get w).entries, w)
  ownPid

/-- Sends a signal and notes that it was sent. -/
def sendNoted (journal : Log.Journal W) (scope : Scope) (pid : Pid) (signal : Signal) :
    StateM W Delivery := do
  let delivery ← act part fun m => m.send scope pid signal
  if delivery == .delivered then
    journal.debug .signals "Signal sent"
      [("pid", .number pid.toNat), ("signal", .plain ((signalName? signal).getD "")),
       ("scope", .plain scope.name)]
  return delivery

/-- Stops processes by signals; `graceful` is the signal that asks for it. -/
def signals (journal : Log.Journal W) (scope : Scope) (graceful : Signal) : StopSignals W where
  isAlive pid := act part fun m => (m.isAlive pid.toNat, m)
  requestStop pid := sendNoted part journal scope pid graceful
  forceKill pid := sendNoted part journal scope pid Signal.kill
  killLeftovers pid := match scope with
    | .group => sendNoted part journal scope pid Signal.kill
    | .process => return .unsupported

/-- Signals for a bot that leads a group of its own. -/
def groupSignals (journal : Log.Journal W) : StopSignals W :=
  signals part journal .group Signal.interrupt

/-- Signals for processes that were found by a query. -/
def straySignals (journal : Log.Journal W) : StopSignals W :=
  signals part journal .process Signal.terminate

/-- Lets time pass on a machine until something holds or an instant is reached.  A keeper
that a signal has ended does not go on. -/
def pass (holds : Machine → Bool) (until? : Option Millis) : Run W Unit := fun w =>
  let stops (m : Machine) : Bool := m.keeperKilled?.isSome || holds m
  let m := (part.get w).runUntil stops until? instants
  let w := part.set m w
  if m.keeperKilled?.isSome then .error .dropped w else .ok () w

/-- The clock of a machine. -/
def clock : Clock W where
  now := fun w => ((part.get w).now, w)
  sleep span := fun w => pass part (fun _ => false) (some ((part.get w).now + span)) w

/-- Takes an interrupt that has arrived and notes where it came from. -/
def takeInterrupt (journal : Log.Journal W) : StateM W Bool := do
  let signal? ← act part fun m => (m.arrived.head?, { m with arrived := m.arrived.drop 1 })
  match signal? with
  | none => return false
  | some signal =>
    journal.debug .interrupt "Interrupt received"
      [("source", .quoted ((signalName? signal).getD ""))]
    return true

/-- The signals of the operator as interrupts. -/
def interrupts (journal : Log.Journal W) : Interrupts W where
  receive := takeInterrupt part journal
  nap span := do
    let until_ := (← (clock part).now) + span
    pass part (fun m => !m.arrived.isEmpty) (some until_)
    takeInterrupt part journal

/-- Waits for the bot once: until it has ended, an interrupt arrives that is listened for,
or an instant is reached. -/
def waitOnce (journal : Log.Journal W) (pid : Nat) (until? : Option Millis) (listens : Bool) :
    Run W Wake := do
  if let some status ← act part fun m =>
      let (m, status?) := m.collect pid
      (status?, m) then
    return .exited status
  if listens then
    if ← takeInterrupt part journal then
      return .interrupted
  let isOver (m : Machine) : Bool :=
    (m.exitStatus? pid).isSome || listens && !m.arrived.isEmpty
  pass part isOver until?
  if let some status ← act part fun m =>
      let (m, status?) := m.collect pid
      (status?, m) then
    return .exited status
  if listens then
    if ← takeInterrupt part journal then
      return .interrupted
  if until?.isNone then throw .dropped
  return .timeUp

/-- How the bot is waited for. -/
def watch (journal : Log.Journal W) (pid : Nat) : ChildWatch W where
  wait until? listens := waitOnce part journal pid until? listens
  arrivals := return instants

/-- Nanoseconds since the epoch at the instant zero of a machine's clock. -/
def epochOffset : Int := 1750000000 * 1000000000

/-- Starts the bot on a machine. -/
def launcher (journal : Log.Journal W) : Launcher W where
  start command := do
    match ← act part fun m => m.launch command with
    | .error e => return .error e
    | .ok pid => return .ok (.ofNat pid, watch part journal pid)
  wallClock := fun w => (epochOffset + ((part.get w).now : Int) * 1000000, w)

/-- A session of the keeper on a machine. -/
def session (journal : Log.Journal W) (ownPid : Pid) : Session W where
  table := table part ownPid
  childSignals := groupSignals part journal
  straySignals := straySignals part journal
  launcher := launcher part journal
  interrupts := interrupts part journal
  clock := clock part
  journal

/-- Starts or stops taking signals as interrupts. -/
def listen (on : Bool) : StateM W Unit := act part fun m => ((), { m with listening := on })

/-- Runs the bot of a project on a machine. -/
def supervisor (journal : Log.Journal W) (here : Place) (projectDir : String)
    (settings : SupervisorSettings) : Supervisor W :=
  (session part journal (.ofNat keeperPid)).supervisor (files part here) journal (listen part)
    projectDir settings

end Machine

end BotKeeper
