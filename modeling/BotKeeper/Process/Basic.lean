/-
# Processes under supervision

The vocabulary of the keeper: process identifiers, the four states of a launched child in
the order in which they may follow one another, the outcome of stopping one process, the
command that starts the bot, and the status a finished process leaves behind.
-/
import BotKeeper.Text.Utf8

namespace BotKeeper

/-- A process identifier. -/
abbrev Pid := UInt32

/-- A span or an instant of time in milliseconds. -/
abbrev Millis := Nat

/-! ## States of a child -/

/-- The states of a launched child. -/
inductive Lifecycle where
  /-- Started, no stop requested. -/
  | running
  /-- A graceful stop was requested. -/
  | signaledGraceful
  /-- A kill was sent. -/
  | signaledForceful
  /-- Gone. -/
  | exited
deriving DecidableEq, Repr

namespace Lifecycle

/-- The place of a state in the order of the states. -/
def rank : Lifecycle → Nat
  | running => 0
  | signaledGraceful => 1
  | signaledForceful => 2
  | exited => 3

instance : Ord Lifecycle := ⟨fun a b => compare a.rank b.rank⟩
instance : LT Lifecycle := ⟨fun a b => a.rank < b.rank⟩
instance : LE Lifecycle := ⟨fun a b => a.rank ≤ b.rank⟩
instance (a b : Lifecycle) : Decidable (a < b) := inferInstanceAs (Decidable (a.rank < b.rank))
instance (a b : Lifecycle) : Decidable (a ≤ b) := inferInstanceAs (Decidable (a.rank ≤ b.rank))

/-- The name of a state. -/
def name : Lifecycle → String
  | running => "running"
  | signaledGraceful => "signaled-graceful"
  | signaledForceful => "signaled-forceful"
  | exited => "exited"

/-- Every state, in order. -/
def all : List Lifecycle := [running, signaledGraceful, signaledForceful, exited]

/-- The state after a step to `next`, which only leads forwards. -/
def advance (state next : Lifecycle) : Lifecycle := if next ≤ state then state else next

theorem rank_injective {a b : Lifecycle} (h : a.rank = b.rank) : a = b := by
  cases a <;> cases b <;> first | rfl | (simp [rank] at h)

theorem le_advance (state next : Lifecycle) : state ≤ state.advance next := by
  unfold advance
  split
  · exact Nat.le_refl _
  · next h => exact Nat.le_of_lt (Nat.lt_of_not_le h)

end Lifecycle

/-! ## Exit statuses -/

/-- How a process ended. -/
inductive ExitStatus where
  /-- It exited with a code. -/
  | exited (code : UInt8)
  /-- A signal ended it. -/
  | signaled (signal : Nat)
deriving DecidableEq, Repr

/-- The names of the signals 1 to 31. -/
def signalNames : List String :=
  ["HUP", "INT", "QUIT", "ILL", "TRAP", "ABRT", "BUS", "FPE", "KILL", "USR1", "SEGV", "USR2",
   "PIPE", "ALRM", "TERM", "STKFLT", "CHLD", "CONT", "STOP", "TSTP", "TTIN", "TTOU", "URG",
   "XCPU", "XFSZ", "VTALRM", "PROF", "WINCH", "IO" , "PWR", "SYS"]

/-- The full name of a signal, for those that have one. -/
def signalName? (signal : Nat) : Option String :=
  match signal with
  | 0 => none
  | n + 1 => (signalNames[n]?).map ("SIG" ++ ·)

namespace ExitStatus

/-- Whether the process reported success. -/
def success : ExitStatus → Bool
  | exited code => code == 0
  | signaled _ => false

/-- The status in words. -/
def display : ExitStatus → String
  | exited code => s!"exit status: {code}"
  | signaled signal =>
    match signalName? signal with
    | some name => s!"signal: {signal} ({name})"
    | none => s!"signal: {signal}"

end ExitStatus

/-! ## Stopping one process -/

/-- The outcome of stopping one process. -/
inductive Outcome where
  /-- It ended after the graceful request. -/
  | gracefulExit
  /-- It ended after the kill. -/
  | forcefulExit
  /-- There was nothing to stop. -/
  | alreadyGone
  /-- It could not be stopped. -/
  | failed (reason : String)
deriving DecidableEq, Repr

namespace Outcome

/-- Whether the process is confirmed gone. -/
def isGone : Outcome → Bool
  | failed _ => false
  | _ => true

/-- The outcome in words. -/
def display : Outcome → String
  | gracefulExit => "graceful exit"
  | forcefulExit => "forceful exit"
  | alreadyGone => "already gone"
  | failed reason => s!"termination failed: {reason}"

end Outcome

/-! ## Launching -/

/-- What to start, and where. -/
structure LaunchCommand where
  /-- The program, a path or a name to look up. -/
  program : SystemText
  /-- Its arguments. -/
  args : List String
  /-- The working directory of the process. -/
  workingDir : String
deriving DecidableEq, Repr

/-- The command as one line: program and arguments separated by blanks. -/
def LaunchCommand.display (c : LaunchCommand) : String :=
  c.args.foldl (fun line arg => line ++ " " ++ arg) c.program.display

end BotKeeper
