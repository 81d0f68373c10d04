/-
# The state of a shell

A shell keeps what it still has to do as a stack of frames, next to its variables, its
traps and what it waits for.
-/
import BotKeeper.Disk.Tree
import BotKeeper.Machine.Shell.Syntax
import BotKeeper.Machine.Signal

namespace BotKeeper.Machine

/-- Where a descriptor of a process leads. -/
inductive Channel where
  /-- Nowhere; nothing can be read from it. -/
  | nowhere
  /-- To a collector of what is printed. -/
  | sink (index : Nat)
  /-- To the end of a file. -/
  | file (place : Place)
  /-- To what is left to read of an opened file. -/
  | text (index : Nat)
  /-- To a named pipe. -/
  | pipe (place : Place)
deriving DecidableEq, Repr

/-- The open descriptors of a process. -/
abbrev Channels := List (Nat × Channel)

namespace Channels

/-- Leads a descriptor elsewhere, or closes it. -/
def assign (cs : Channels) (descriptor : Nat) (target? : Option Channel) : Channels :=
  let others := cs.filter fun c => c.1 != descriptor
  match target? with
  | some target => (descriptor, target) :: others
  | none => others

end Channels

namespace Shell

/-- Something a shell still has to do. -/
inductive Frame where
  /-- Run a command. -/
  | run (c : Command)
  /-- Run a command if the last one succeeded. -/
  | andThen (c : Command)
  /-- Run a command if the last one failed. -/
  | orElse (c : Command)
  /-- Invert the outcome of the last command. -/
  | negate
  /-- Run one of two commands, as the last one tells. -/
  | choose (yes no : Command)
  /-- Go on with a loop whose test was just run. -/
  | tested (test : Command) (expect : Bool) (body : Command)
  /-- Go on with a loop whose body was just run. -/
  | looped (test : Command) (expect : Bool) (body : Command)
  /-- Run the body of a loop for each word left. -/
  | forEach (name : String) (words : List String) (body : Command)
  /-- Lead the descriptors where they led before. -/
  | restore (channels : Channels)
  /-- Take up the outcome from before a trap. -/
  | afterTrap (status : Nat)
  /-- End with a code. -/
  | leave (code : Nat)

/-- Whether a frame belongs to a loop. -/
def Frame.isLoop : Frame → Bool
  | tested .. | looped .. | forEach .. => true
  | _ => false

/-- What a shell waits for. -/
inductive Waiting where
  /-- For the end of a process in the foreground. -/
  | child (pid : Nat)
  /-- For a line from a descriptor, to be cut into variables. -/
  | input (descriptor : Nat) (names : List String)
  /-- For the end of processes in the background. -/
  | jobs (pids : List Nat)

/-- The state of a shell. -/
structure State where
  frames : List Frame
  /-- The name it was called by. -/
  name : String
  args : List String := []
  vars : List (String × String) := []
  exported : List String := []
  /-- The outcome of the last command. -/
  status : Nat := 0
  /-- The process `$$` stands for. -/
  mainPid : Nat
  lastJob? : Option Nat := none
  jobs : List Nat := []
  /-- What to do on signals; nothing means that a signal is ignored.  Zero stands for the
  end of the shell. -/
  traps : List (Signal × Option Command) := []
  /-- Signals that have arrived and whose traps have not run yet. -/
  pending : List Signal := []
  waiting? : Option Waiting := none
  /-- Whether the last command may take the place of the shell. -/
  replaceable : Bool := false

namespace State

/-- The value of a variable. -/
def valueOf? (s : State) (name : String) : Option String := s.vars.lookup name

/-- Gives a variable a value. -/
def assign (s : State) (name value : String) : State :=
  { s with vars := (name, value) :: s.vars.filter fun v => v.1 != name }

/-- The environment of programs that the shell starts. -/
def environment (s : State) : List (String × String) :=
  s.vars.filter fun v => s.exported.contains v.1

end State

end Shell

end BotKeeper.Machine
