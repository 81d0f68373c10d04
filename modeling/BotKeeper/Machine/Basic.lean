/-
# A machine with processes

The machine on which a bot is kept: a disk, a clock, processes and what they print.  The
keeper is one of the processes; the others are shells and small programs.  A process that
has ended stays in the table until its parent takes note of its status.
-/
import BotKeeper.Disk.Files
import BotKeeper.Machine.Shell.State

namespace BotKeeper

namespace Machine

/-- What a process is doing. -/
inductive Body where
  /-- It runs commands. -/
  | shell (state : Shell.State)
  /-- It is a small program about to do its work. -/
  | tool (name : String) (args : List String)
  /-- It sleeps until an instant. -/
  | sleeper (wake : Millis)
  /-- It has ended. -/
  | ended (status : ExitStatus)

/-- A process. -/
structure Process where
  pid : Nat
  parent : Nat
  group : Nat
  /-- The name shown in the process table. -/
  name : String
  /-- The command line shown in the process table. -/
  argv : List String
  /-- Its working directory. -/
  place : Place
  channels : Channels
  environment : List (String × String)
  /-- Signals it has no ears for. -/
  ignored : List Signal := []
  /-- The size in octets beyond which it may let no file grow, if there is one. -/
  largestFile? : Option Nat := none
  halted : Bool := false
  body : Body

/-- Whether a process has ended. -/
def Process.status? (p : Process) : Option ExitStatus :=
  match p.body with
  | .ended status => some status
  | _ => none

/-- Whether a process has not ended. -/
def Process.isLive (p : Process) : Bool := p.status?.isNone

end Machine

/-- A machine. -/
structure Machine where
  disk : Disk
  now : Millis := 0
  processes : List Machine.Process := []
  nextPid : Nat
  /-- What was printed into each collector, newest first. -/
  sinks : List (Nat × List Octets) := []
  /-- What is left to read of each opened file. -/
  texts : List (Nat × Octets) := []
  /-- What waits in each named pipe. -/
  pipes : List (Place × Octets) := []
  /-- The process of the keeper. -/
  keeper : Nat
  /-- The working directory of the keeper. -/
  keeperPlace : Place
  /-- The environment of the keeper. -/
  environment : List (String × String) := []
  /-- Where the descriptors of the keeper lead. -/
  keeperChannels : Machine.Channels := [(0, .nowhere)]
  /-- Whether the keeper takes signals as interrupts. -/
  listening : Bool := false
  /-- Signals taken as interrupts, oldest first. -/
  arrived : List Machine.Signal := []
  /-- The signal that ended the keeper, if one did. -/
  keeperKilled? : Option Machine.Signal := none
  /-- A signal sent to the keeper as soon as a path leads to something. -/
  cue? : Option (String × Machine.Signal) := none
  /-- The statuses the keeper has taken note of. -/
  collected : List (Nat × ExitStatus) := []

namespace Machine

/-! ## Processes -/

/-- The pid of the keeper on a machine that was just set up. -/
def keeperPid : Nat := 2

/-- The process of a pid. -/
def process? (m : Machine) (pid : Nat) : Option Process := m.processes.find? (·.pid == pid)

/-- Changes the process of a pid. -/
def revise (m : Machine) (pid : Nat) (f : Process → Process) : Machine :=
  { m with processes := m.processes.map fun p => if p.pid == pid then f p else p }

/-- Takes a process out of the table. -/
def forget (m : Machine) (pid : Nat) : Machine :=
  { m with processes := m.processes.filter (·.pid != pid) }

/-- The status of a process that has ended and still stands in the table. -/
def exitStatus? (m : Machine) (pid : Nat) : Option ExitStatus :=
  (m.process? pid).bind Process.status?

/-- Whether a process exists and has not ended. -/
def isAlive (m : Machine) (pid : Nat) : Bool :=
  pid == m.keeper || (m.process? pid).any Process.isLive

/-- The pids of a group. -/
def members (m : Machine) (group : Nat) : List Nat :=
  (m.processes.filter (·.group == group)).map (·.pid)

/-- Adds a process under a pid of its own. -/
def add (m : Machine) (make : Nat → Process) : Machine × Nat :=
  ({ m with processes := m.processes ++ [make m.nextPid], nextPid := m.nextPid + 1 }, m.nextPid)

/-- Ends a process.  Its children lose their parent: nobody takes note of those that have
ended. -/
def finish (m : Machine) (pid : Nat) (status : ExitStatus) : Machine :=
  match m.process? pid with
  | none => m
  | some p =>
    let processes := m.processes.filter fun q => !(q.parent == pid && !q.isLive)
    let processes := processes.map fun q => if q.parent == pid then { q with parent := 1 } else q
    let m := { m with processes }
    if p.parent == 1 then m.forget pid
    else m.revise pid fun p => { p with body := .ended status, channels := [] }

/-! ## Signals -/

/-- Lets a signal act by itself. -/
def actByDefault (m : Machine) (pid : Nat) (signal : Signal) : Machine :=
  match signal.defaultAction with
  | .finish => m.finish pid (.signaled signal)
  | .nothing => m
  | .halt => m.revise pid fun p => { p with halted := true }
  | .resume => m.revise pid fun p => { p with halted := false }

/-- Delivers a signal to a process that has not ended. -/
def deliver (m : Machine) (p : Process) (signal : Signal) : Machine :=
  let m := if signal == 18 then m.revise p.pid fun p => { p with halted := false } else m
  if signal == Signal.kill || signal == 19 then m.actByDefault p.pid signal
  else match p.body with
    | .shell s =>
      match s.traps.lookup signal with
      | some none => m
      | some (some _) =>
        if s.pending.contains signal then m
        else m.revise p.pid fun p =>
          { p with body := .shell { s with pending := s.pending ++ [signal] } }
      | none => if p.ignored.contains signal then m else m.actByDefault p.pid signal
    | .ended _ => m
    | _ => if p.ignored.contains signal then m else m.actByDefault p.pid signal

/-- Delivers a signal to the keeper. -/
def deliverToKeeper (m : Machine) (signal : Signal) : Machine :=
  if signal == 0 then m
  else if m.listening && [Signal.hangup, Signal.interrupt, Signal.terminate].contains signal then
    { m with arrived := m.arrived ++ [signal] }
  else if signal.defaultAction == .finish && m.keeperKilled?.isNone then
    { m with keeperKilled? := some signal }
  else m

/-- Sends a signal to a process; nothing if there is no such process.  One that has ended
but still stands in the table is no obstacle. -/
def kill (m : Machine) (pid : Nat) (signal : Signal) : Option Machine :=
  if pid == m.keeper then some (m.deliverToKeeper signal)
  else if pid == 1 then some m
  else match m.process? pid with
    | none => none
    | some p => some (if signal == 0 then m else m.deliver p signal)

/-- Sends a signal to each process of a group; nothing if the group is empty. -/
def killGroup (m : Machine) (group : Nat) (signal : Signal) : Option Machine :=
  let pids := m.members group ++ (if group == m.keeper then [m.keeper] else [])
  if pids.isEmpty then none
  else some (pids.foldl (fun m pid => (m.kill pid signal).getD m) m)

/-- Sends the signal whose cue has come. -/
def heedCue (m : Machine) : Machine :=
  match m.cue? with
  | some (path, signal) =>
    if m.disk.isPresent m.keeperPlace path then
      { m with cue? := none }.deliverToKeeper signal
    else m
  | none => m

/-- Takes note of the status of a process that has ended: from now on nothing has its
pid. -/
def collect (m : Machine) (pid : Nat) : Machine × Option ExitStatus :=
  match m.collected.lookup pid with
  | some status => (m, some status)
  | none =>
    match m.exitStatus? pid with
    | some status => ({ m.forget pid with collected := (pid, status) :: m.collected }, some status)
    | none => (m, none)

/-! ## Printing and reading -/

/-- What was printed into a collector. -/
def printed (m : Machine) (index : Nat) : Octets :=
  (((m.sinks.lookup index).getD []).reverse).flatten

/-- A new, empty collector. -/
def newSink (m : Machine) : Machine × Nat :=
  ({ m with sinks := (m.sinks.length, []) :: m.sinks }, m.sinks.length)

/-- Whether a process holds a collector open. -/
def isHeld (m : Machine) (index : Nat) : Bool :=
  m.processes.any fun p => p.channels.any fun c => c.2 == .sink index

/-- Replaces the value of a key. -/
def replaceValue {K V : Type} [BEq K] (entries : List (K × V)) (key : K) (value : V) :
    List (K × V) :=
  (key, value) :: entries.filter fun e => !(e.1 == key)

/-- Prints octets into a channel. -/
def print (m : Machine) (channel : Channel) (octets : Octets) : Machine :=
  match channel with
  | .nowhere | .text _ => m
  | .sink i =>
    { m with sinks := m.sinks.map fun s => if s.1 == i then (i, octets :: s.2) else s }
  | .file place =>
    match m.disk.node? place with
    | some (.file content runnable) =>
      let content := SystemText.ofOctets (content.toOctets ++ octets)
      { m with disk := m.disk.put place (.file content runnable) }
    | _ => m
  | .pipe place =>
    { m with pipes := replaceValue m.pipes place ((m.pipes.lookup place).getD [] ++ octets) }

/-- Whether reading a line from a channel does not have to wait. -/
def isReadable (m : Machine) (channel : Channel) : Bool :=
  match channel with
  | .pipe place => ((m.pipes.lookup place).getD []).contains 10
  | _ => true

/-- Takes a line from a channel; nothing at the end of what can be read. -/
def takeLine (m : Machine) (channel : Channel) : Machine × Option Octets :=
  let cut (octets : Octets) : Option (Octets × Octets) :=
    if octets.isEmpty then none
    else some (octets.takeWhile (· != 10), (octets.dropWhile (· != 10)).drop 1)
  match channel with
  | .pipe place =>
    match cut ((m.pipes.lookup place).getD []) with
    | none => (m, none)
    | some (line, rest) => ({ m with pipes := replaceValue m.pipes place rest }, some line)
  | .text i =>
    match cut ((m.texts.lookup i).getD []) with
    | none => (m, none)
    | some (line, rest) => ({ m with texts := replaceValue m.texts i rest }, some line)
  | _ => (m, none)

/-- Everything that can be read from a channel at once. -/
def takeAll (m : Machine) (channel : Channel) : Machine × Octets :=
  match channel with
  | .pipe place =>
    ({ m with pipes := replaceValue m.pipes place [] }, (m.pipes.lookup place).getD [])
  | .text i => ({ m with texts := replaceValue m.texts i [] }, (m.texts.lookup i).getD [])
  | _ => (m, [])

/-- Opens octets for reading. -/
def openText (m : Machine) (octets : Octets) : Machine × Channel :=
  ({ m with texts := (m.texts.length, octets) :: m.texts }, .text m.texts.length)

/-- The disk of a machine as a part of it. -/
def diskPart : Lens Machine Disk := ⟨Machine.disk, fun d m => { m with disk := d }⟩

end Machine

end BotKeeper
