/-
# Rehearsals

A rehearsal lets the keeper run against scripted processes on a clock that jumps: work
takes no time, and whenever the keeper waits and nothing else is ready the clock moves to
the next instant at which something happens.  The bot itself is started on a machine, whose
own clock moves only while the keeper waits for the bot and nothing is due.
-/
import BotKeeper.Machine.Keeper
import BotKeeper.Rehearsal.Troupe

namespace BotKeeper

/-- The state of a rehearsal. -/
structure Rehearsal where
  machine : Machine
  /-- The directory of the project. -/
  home : String
  now : Millis := 0
  /-- The instant at which the run is dropped. -/
  abortAt? : Option Millis := none
  /-- The instants of the interrupts still to come. -/
  coming : List Millis := []
  /-- How many interrupts have arrived and were not taken. -/
  queued : Nat := 0
  /-- How many interrupts arrive while the table is read, for each time it is. -/
  onSnapshot : List Nat := []
  /-- How many interrupts arrive with each request to the bot. -/
  onGraceful : Nat := 0
  /-- Whether the operator goes away after the last interrupt. -/
  closing : Bool := false
  /-- What the table shows, or why it cannot be read. -/
  table : Except String (List ProcessEntry) := .ok []
  /-- How often the table was read. -/
  snapshots : Nat := 0
  strays : Rehearsal.Troupe := {}
  child : Rehearsal.Troupe := {}
  /-- The pid that the last request to the bot named. -/
  childPid? : Option Pid := none
  /-- The record as it was at each request to the bot, newest first. -/
  records : List (String × Pid × Except KeeperError (Option SessionRecord)) := []
  /-- What was logged, newest first. -/
  events : List Log.Event := []

namespace Rehearsal

/-- The machine of a rehearsal. -/
def machinePart : Lens Rehearsal Machine := ⟨Rehearsal.machine, fun m r => { r with machine := m }⟩

/-- The files of a rehearsal. -/
def files (here : Place) : Files Rehearsal := Machine.files machinePart here

/-- The log of a rehearsal. -/
def journal : Log.Journal Rehearsal where
  record event := modify fun r => { r with events := event :: r.events }

/-! ## Waiting -/

/-- Lets the interrupts arrive that are due. -/
def heed (r : Rehearsal) : Rehearsal :=
  { r with
    queued := r.queued + (r.coming.filter (· ≤ r.now)).length
    coming := r.coming.filter (r.now < ·) }

/-- The earlier of two instants, where there are any. -/
def earlier? : Option Millis → Option Millis → Option Millis
  | some a, some b => some (min a b)
  | some a, none => some a
  | none, b => b

/-- The next instant at which something is due. -/
def nextInstant? (r : Rehearsal) (until? : Option Millis) : Option Millis :=
  earlier? until? (earlier? r.coming.min? r.abortAt?)

/-- Waits until something is ready or an instant is reached.  Whatever is ready at an
instant is noticed before the clock moves on, and a run that is to be dropped is dropped
only when it has to wait.  `awaited?` is the process for which real time passes if nothing
is due. -/
def await {α : Type} (ready : StateM Rehearsal (Option α)) (awaited? : Option Nat)
    (until? : Option Millis) : (fuel : Nat) → Run Rehearsal (Option α)
  | 0 => throw .dropped
  | fuel + 1 => do
    if let some a ← ready then return some a
    modify fun r => { r with machine := r.machine.settle }
    if let some a ← ready then return some a
    let r ← get
    if until?.any (· ≤ r.now) then return none
    if r.abortAt?.any (· ≤ r.now) then throw .dropped
    match r.nextInstant? until? with
    | some t =>
      set { r with now := max r.now t }.heed
      await ready awaited? until? fuel
    | none =>
      let isOver (m : Machine) : Bool := awaited?.any fun pid => !m.isAlive pid
      set { r with machine := r.machine.runUntil isOver none Machine.instants }
      match ← ready with
      | some a => return some a
      | none => throw .dropped

/-- How many instants a wait goes through at most. -/
def patience (r : Rehearsal) : Nat := r.coming.length + 4

/-- The clock of a rehearsal. -/
def clock : Clock Rehearsal where
  now := return (← get).now
  sleep span := do
    let r ← get
    let _ ← await (α := Unit) (pure none) none (some (r.now + span)) (patience r)

/-- Takes an interrupt that has arrived. -/
def takeInterrupt : StateM Rehearsal (Option Unit) := fun r =>
  match r.queued with
  | 0 => (none, r)
  | n + 1 => (some (), { r with queued := n })

/-- Whether nobody can interrupt any more. -/
def isSilent (r : Rehearsal) : Bool :=
  r.closing && r.queued == 0 && r.coming.isEmpty && r.onGraceful == 0

/-- The interrupts of a rehearsal. -/
def interrupts : Interrupts Rehearsal where
  receive := return (← takeInterrupt).isSome
  nap span := do
    let r ← get
    return (← await takeInterrupt none (some (r.now + span)) (patience r)).isSome

/-! ## The bot -/

/-- What ends a wait for the bot, if it has happened. -/
def wake? (pid : Nat) (listens : Bool) : StateM Rehearsal (Option Wake) := fun r =>
  let (m, status?) := r.machine.collect pid
  let r := { r with machine := m }
  match status?, listens with
  | some status, _ => (some (.exited status), r)
  | none, true =>
    match takeInterrupt r with
    | (some (), r) => (some .interrupted, r)
    | (none, r) => (if r.isSilent then some .silenced else none, r)
  | none, false => (none, r)

/-- How the bot is waited for. -/
def watch (pid : Nat) : ChildWatch Rehearsal where
  wait until? listens := do
    let r ← get
    return (← await (wake? pid listens) (some pid) until? (patience r)).getD .timeUp
  arrivals := return (← get).queued + (← get).coming.length

/-- Starts the bot on the machine of the rehearsal. -/
def launcher : Launcher Rehearsal where
  start command := do
    match ← Machine.act machinePart fun m => m.launch command with
    | .error e => return .error e
    | .ok pid => return .ok (.ofNat pid, watch pid)
  wallClock := return Machine.epochOffset

/-! ## Scripted signals -/

/-- Sends a signal to the real group of a pid and waits until its leader has ended. -/
def sendAlong (pid : Pid) (signal : Machine.Signal) : StateM Rehearsal Unit := modify fun r =>
  let m := (r.machine.killGroup pid.toNat signal).getD r.machine
  { r with machine := m.runUntil (fun m => !m.isAlive pid.toNat) none Machine.instants }

/-- Makes a request to one of a troupe. -/
def request (troupe : Lens Rehearsal Troupe) (call : String) (plan : Actor → Plan) (pid : Pid) :
    StateM Rehearsal Delivery := do
  let r ← get
  let (delivery, signal?, t) := (troupe.get r).request r.now call plan pid
  set (troupe.set t r)
  if let some signal := signal? then
    sendAlong pid signal
  return delivery

/-- The signals of a troupe. -/
def signals (troupe : Lens Rehearsal Troupe) : StopSignals Rehearsal where
  isAlive pid := do
    let r ← get
    let t := troupe.get r
    let alive := t.isAlive r.now pid
    set (troupe.set (t.note r.now "alive" pid (if alive then "yes" else "no")) r)
    return alive
  requestStop := request troupe "graceful" (·.graceful)
  forceKill := request troupe "force" (·.force)
  killLeftovers pid := do
    let r ← get
    let (delivery, t) := (troupe.get r).leftovers r.now pid
    set (troupe.set t r)
    return delivery

/-- The scripted stray processes. -/
def strayPart : Lens Rehearsal Troupe := ⟨Rehearsal.strays, fun t r => { r with strays := t }⟩

/-- The script of the bot. -/
def childPart : Lens Rehearsal Troupe := ⟨Rehearsal.child, fun t r => { r with child := t }⟩

/-- The record in the project. -/
def store (here : Place) (r : Rehearsal) : RecordStore Rehearsal :=
  .inProject (files here) journal r.home

/-- Keeps what a request to the bot finds in the record. -/
def witness (here : Place) (call : String) (pid : Pid) : StateM Rehearsal Unit := do
  let found ← (store here (← get)).load
  modify fun r => { r with records := (call, pid, found) :: r.records, childPid? := some pid }

/-- The signals of the bot, watching the record; interrupts may arrive with a request. -/
def childSignals (here : Place) : StopSignals Rehearsal :=
  let s := signals childPart
  { isAlive := s.isAlive
    requestStop pid := do
      witness here "graceful" pid
      modify fun r => { r with queued := r.queued + r.onGraceful }
      s.requestStop pid
    forceKill pid := do
      witness here "force" pid
      s.forceKill pid
    killLeftovers pid := do
      witness here "leftovers" pid
      s.killLeftovers pid }

/-- The table of a rehearsal; interrupts may arrive while it is read. -/
def processTable : ProcessTable Rehearsal where
  snapshot := fun r =>
    let arriving := r.onSnapshot[r.snapshots]?.getD 0
    let r := { r with snapshots := r.snapshots + 1, queued := r.queued + arriving }
    (r.table.mapError .enumerationFailed, r)
  ownPid := .ofNat Machine.keeperPid

/-- A session in a rehearsal. -/
def session (here : Place) : Session Rehearsal where
  table := processTable
  childSignals := childSignals here
  straySignals := signals strayPart
  launcher := launcher
  interrupts := interrupts
  clock := clock
  journal := journal

end Rehearsal

end BotKeeper
