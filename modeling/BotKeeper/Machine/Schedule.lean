/-
# Passing time

The processes of a machine take turns until each of them waits; then time passes up to the
next instant at which a sleeper wakes.
-/
import BotKeeper.Machine.Guest
import BotKeeper.Machine.Shell.Step

namespace BotKeeper.Machine

/-! ## Turns -/

/-- Whether a process can take a turn. -/
def isReady (m : Machine) (p : Process) : Bool :=
  !p.halted && match p.body with
    | .shell s => !s.isWaiting m p
    | .tool .. => true
    | .sleeper wake => wake ≤ m.now
    | .ended _ => false

/-- The span of time an argument of `sleep` stands for, in milliseconds. -/
def sleepSpan? (arg : String) : Option Millis :=
  let cs := arg.toList
  let whole := cs.takeWhile Char.isDigit
  let rest := cs.drop whole.length
  let (fraction, unit) := match rest with
    | '.' :: r => (r.takeWhile Char.isDigit, r.dropWhile Char.isDigit)
    | _ => ([], rest)
  let scale := Nat.pow 10 fraction.length
  let amount := Shell.digitsValue whole * scale + Shell.digitsValue fraction
  let seconds? := match unit with
    | [] | ['s'] => some 1
    | ['m'] => some 60
    | ['h'] => some 3600
    | ['d'] => some 86400
    | _ => none
  if whole.isEmpty && fraction.isEmpty then none
  else seconds?.map fun s => (amount * s * 1000 + scale - 1) / scale

/-- Does the work of a small program. -/
def workTool (m : Machine) (p : Process) (name : String) (args : List String) : Machine :=
  let channel (n : Nat) : Channel := (p.channels.lookup n).getD .nowhere
  let around (input : Octets) : Around :=
    { disk := m.disk, place := p.place, environment := p.environment, input }
  match name, args with
  | "sleep", _ =>
    match args.mapM sleepSpan? with
    | some (span :: spans) =>
      m.revise p.pid fun p => { p with body := .sleeper (spans.foldl (· + ·) (m.now + span)) }
    | _ => m.finish p.pid (.exited 1)
  | "env", program :: args =>
    let path := (p.environment.lookup "PATH").getD standardPath
    match locate m.disk p.place path program args with
    | .ok image => m.replace p image p.environment
    | .error .notFound => m.finish p.pid (.exited 127)
    | .error _ => m.finish p.pid (.exited 126)
  | "kill", _ =>
    let signal := match args with
      | first :: _ => if first.startsWith "-" then Signal.ofName? (first.drop 1).toString else none
      | [] => none
    let targets := if signal.isSome then args.drop 1 else args
    let m := targets.foldl
      (fun m t => ((t.toNat?).bind fun pid => m.kill pid (signal.getD Signal.terminate)).getD m) m
    m.finish p.pid (.exited 0)
  | "keeper", _ =>
    let (status, m) := m.hostGuest p args
    m.finish p.pid status
  | "cat", [] =>
    let (m, input) := m.takeAll (channel 0)
    (m.print (channel 1) input).finish p.pid (.exited 0)
  | _, _ =>
    let done := Tool.run (around []) name args
    let m := { m with disk := done.disk }
    let m := (m.print (channel 1) done.output).print (channel 2) done.complaints
    m.finish p.pid (.exited (.ofNat done.status))

/-- One turn of a process. -/
def turn (m : Machine) (p : Process) : Machine :=
  match p.body with
  | .shell _ => (Shell.Act.step.run p.pid m).2
  | .tool name args => workTool m p name args
  | .sleeper _ => m.finish p.pid (.exited 0)
  | .ended _ => m

/-- The processes with one of them at the end. -/
def toBack (m : Machine) (pid : Nat) : Machine :=
  let (chosen, others) := m.processes.partition (·.pid == pid)
  { m with processes := others ++ chosen }

/-- Turns of one process, until it waits or its share is used up. -/
def share (pid : Nat) : (turns : Nat) → Machine → Machine
  | 0, m => m.toBack pid
  | turns + 1, m =>
    match m.process? pid with
    | none => m
    | some p => if m.isReady p then share pid turns (m.turn p) else m

/-- Lets every process that can take a turn do so until none can, for `rounds` shares at
most. -/
def settleFor : (rounds : Nat) → Machine → Machine
  | 0, m => m
  | rounds + 1, m =>
    match m.processes.find? m.isReady with
    | none => m
    | some p => settleFor rounds (share p.pid 500 m)

/-- Lets every process take turns until all of them wait, and sends the signal whose cue
has come.  A process that never waits does not hold up the others. -/
def settle (m : Machine) : Machine := (settleFor 400 m).heedCue

/-! ## Time -/

/-- The next instant at which a sleeper wakes. -/
def nextWake? (m : Machine) : Option Millis :=
  (m.processes.filterMap fun p => match p.body with
    | .sleeper wake => if p.halted || wake ≤ m.now then none else some wake
    | _ => none).min?

/-- Lets time pass until something holds, until an instant if one is given, or until
nothing happens any more. -/
def runUntil (holds : Machine → Bool) (until? : Option Millis) : (fuel : Nat) → Machine → Machine
  | 0, m => m
  | fuel + 1, m =>
    let m := m.settle
    if holds m then m
    else
      let next? := match m.nextWake?, until? with
        | some wake, some stop => some (min wake stop)
        | some wake, none => some wake
        | none, stop? => stop?
      match next? with
      | none => m
      | some next =>
        if next ≤ m.now then m else runUntil holds until? fuel { m with now := next }

/-- How many instants are gone through at most. -/
def instants : Nat := 100000

end BotKeeper.Machine
