/-
# Running programs

The keeper runs programs to their end and looks at what they printed.  Running one is a
capability; here is what the keeper makes of the result and what it says when a program
fails.
-/
import BotKeeper.Error
import BotKeeper.Log.Event
import BotKeeper.Text.Blank

namespace BotKeeper

open Log

/-- What a program left behind when it ended. -/
structure ProgramOutput where
  status : ExitStatus
  /-- What it printed. -/
  output : Octets
  /-- What it printed for the operator. -/
  complaints : Octets
deriving DecidableEq, Repr

/-- The capability to run a program to its end in a world `W`: program, arguments, and the
directory to run it in, the present one if none is given. -/
structure Programs (W : Type) where
  run : SystemText → List String → Option String → StateM W (Except SystemError ProgramOutput)

namespace Programs

variable {W : Type} (p : Programs W) (journal : Journal W)

/-- A program and its arguments as one line. -/
def commandLine (program : SystemText) (args : List String) : String :=
  program.display ++ " " ++ Text.joined " " args

/-- The failure of a program that could not be run. -/
def notRun (program : SystemText) (args : List String) (e : SystemError) : Failure :=
  ⟨[s!"failed to execute: {commandLine program args}", e.message]⟩

/-- Runs a program that must succeed.  `description` says for the operator what it does. -/
def perform (description : String) (program : SystemText) (args : List String) (dir : String) :
    StateM W (Except Failure Unit) := do
  let line := commandLine program args
  journal.info .command description
  journal.debug .command s!"exec: {line}"
  match ← p.run program args (some dir) with
  | .error e => return .error (notRun program args e)
  | .ok result =>
    if result.status.success then return .ok ()
    else
      let complaints := Utf8.decodeLossy result.complaints
      journal.error .command s!"command failed: {line}\nstderr: {complaints}"
      return .error
        ⟨[s!"{description} failed (exit {result.status.display}): {Text.trim complaints}"]⟩

/-- Runs a program for what it prints, whether or not it succeeds. -/
def capture (program : SystemText) (args : List String) (dir : String) :
    StateM W (Except Failure String) := do
  journal.debug .command s!"exec (capture): {commandLine program args}"
  match ← p.run program args (some dir) with
  | .error e => return .error (notRun program args e)
  | .ok result => return .ok (Text.trim (Utf8.decodeLossy result.output))

/-- Whether a program can be found by its name. -/
def isAvailable (name : String) : StateM W Bool := do
  match ← p.run (.text "which") [name] none with
  | .ok result => return result.status.success
  | .error _ => return false

end Programs

end BotKeeper
