/-
# A keeper as a guest

A program that the keeper runs can run the keeper in turn, under limits of its own.  Such a
guest works on the files of the machine and prints through the descriptors of its process.
It finds no programs to run, so what it can do by itself is to check and create files.
-/
import BotKeeper.CommandLine.Run
import BotKeeper.Machine.Basic

namespace BotKeeper.Machine

/-- The signal that a process gets when it lets a file grow too large. -/
def Signal.fileTooLarge : Signal := 25

/-- A machine with a guest on it. -/
structure Hosted where
  machine : Machine
  /-- The signal that ended the guest, if one did. -/
  killed? : Option Signal := none

namespace Hosted

/-- The disk of a machine with a guest on it. -/
def diskPart : Lens Hosted Disk :=
  ⟨fun h => h.machine.disk, fun d h => { h with machine := { h.machine with disk := d } }⟩

/-- The files as the guest may work on them.  A file that would become too large ends the
guest unless it has no ears for the signal. -/
def files (p : Process) : Files Hosted :=
  match p.largestFile? with
  | none => .ofDisk diskPart p.place
  | some limit =>
    let files := Files.limited diskPart p.place limit
    { files with
      write path s := do
        match ← files.write path s with
        | .error .fileTooLarge =>
          if !p.ignored.contains Signal.fileTooLarge then
            modify fun h => { h with killed? := some Signal.fileTooLarge }
          return .error .fileTooLarge
        | result => return result }

/-- Prints a text through a descriptor of the guest, unless a signal has ended it. -/
def say (p : Process) (descriptor : Nat) (text : String) : StateM Hosted Unit := modify fun h =>
  if h.killed?.isSome then h
  else
    let channel := (p.channels.lookup descriptor).getD .nowhere
    { h with machine := h.machine.print channel text.toUTF8.toList }

/-- A process of a machine as the host of the guest. -/
def host (p : Process) : CommandLine.Host Hosted where
  vars := p.environment
  workingDir := Path.absolute p.place
  files := files p
  programs := ⟨fun _ _ _ => return .error .notFound⟩
  supervisor _ _ _ command := return .error ⟨[s!"{command.display} cannot be started"]⟩
  print := say p 1
  complain := say p 2

end Hosted

/-- Runs the keeper as a process of a machine to its end. -/
def hostGuest (m : Machine) (p : Process) (args : List String) : ExitStatus × Machine :=
  let (code, h) := (CommandLine.run (Hosted.host p) args).run { machine := m }
  ((h.killed?.elim (.exited code) .signaled), h.machine)

end BotKeeper.Machine
