/-
# Signals

Signals by number and by name, and what a signal does to a process that made no provision
for it.
-/
import BotKeeper.Process.Basic

namespace BotKeeper.Machine

/-- The number of a signal. -/
abbrev Signal := Nat

namespace Signal

/-- The terminal is gone. -/
def hangup : Signal := 1

/-- The operator interrupts. -/
def interrupt : Signal := 2

/-- The operator quits. -/
def quit : Signal := 3

/-- The end, whatever provision was made. -/
def kill : Signal := 9

/-- A request to end. -/
def terminate : Signal := 15

/-- The highest signal. -/
def highest : Signal := 64

/-- The signal of a name, with or without its first syllable, or of a number. -/
def ofName? (name : String) : Option Signal :=
  let bare := if name.startsWith "SIG" then (name.drop 3).toString else name
  match signalNames.findIdx? (· == bare) with
  | some i => some (i + 1)
  | none =>
    match name.toNat? with
    | some n => if n ≤ highest then some n else none
    | none => none

end Signal

/-- What a signal does by itself. -/
inductive DefaultAction where
  /-- It ends the process. -/
  | finish
  /-- Nothing. -/
  | nothing
  /-- It halts the process. -/
  | halt
  /-- It lets a halted process go on. -/
  | resume
deriving DecidableEq, Repr

/-- What a signal does by itself. -/
def Signal.defaultAction (signal : Signal) : DefaultAction :=
  if signal == 17 || signal == 23 || signal == 28 then .nothing
  else if signal == 18 then .resume
  else if 19 ≤ signal && signal ≤ 22 then .halt
  else .finish

end BotKeeper.Machine
