/-
# Running the program on a machine

A machine can be the host of the program, which is then the keeper of that machine.  A
transcript is what the program printed and the code it ended with.
-/
import BotKeeper.CommandLine.Run
import BotKeeper.Machine.Keeper

namespace BotKeeper

namespace Machine

variable {W : Type} (part : Lens W Machine)

/-- Prints a text through a descriptor of the keeper.  A keeper that a signal has ended
prints nothing any more. -/
def say (descriptor : Nat) (text : String) : StateM W Unit := act part fun m =>
  if m.keeperKilled?.isSome then ((), m)
  else ((), m.print ((m.keeperChannels.lookup descriptor).getD .nowhere) text.toUTF8.toList)

/-- A machine as the host of the program, which is started in the directory of the
keeper. -/
def host (m : Machine) : CommandLine.Host W where
  vars := m.environment
  workingDir := Path.absolute m.keeperPlace
  files := files part m.keeperPlace
  programs := programs part
  supervisor journal dir settings := supervisor part journal m.keeperPlace dir settings
  print := say part 1
  complain := say part 2

end Machine

namespace CommandLine

/-- What a run of the program leaves behind, apart from files. -/
structure Transcript where
  /-- The exit code; none if a signal ended the program. -/
  code? : Option UInt8
  output : String
  complaints : String
deriving DecidableEq, Repr

/-- Runs the program on a machine, with nothing to read and collectors for what it and its
children print. -/
def transcribe (words : List String) (m : Machine) : Transcript × Machine :=
  let (m, output) := m.newSink
  let (m, complaints) := m.newSink
  let m := { m with keeperChannels := [(0, .nowhere), (1, .sink output), (2, .sink complaints)] }
  let (code, m) := (run (m.host Lens.whole) words).run m
  let text (sink : Nat) : String := Utf8.decodeLossy (m.printed sink)
  ({ code? := if m.keeperKilled?.isSome then none else some code
     output := text output
     complaints := text complaints }, m)

end CommandLine

end BotKeeper
