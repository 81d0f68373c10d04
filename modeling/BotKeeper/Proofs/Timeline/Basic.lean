/-
# Timelines

A world in which a bot can be watched and stopped under every behaviour of its surroundings.
What surrounds the keeper is a `Fate`: how each signal is answered and when the bot exits, as
functions of all contacts made so far and of the present instant.  The operator interrupts at
given instants and may go away after the last one.  The clock moves only while the keeper waits,
and a wait ends at the first instant at which something happens; of several things that happen
at that instant, an arbitrary preference picks one.

The world records every contact with its instant, and the instants at which interrupts were
taken.
-/
import BotKeeper.Proofs.Contact
import BotKeeper.Proofs.Run
import BotKeeper.Session.Shutdown

namespace BotKeeper

/-- Contacts with their instants, in the order in which they were made. -/
abbrev History := List (Millis × Contact)

/-- How everything outside the keeper behaves, given the contacts made so far. -/
structure Fate where
  /-- Whether a process looks alive at an instant. -/
  alive : History → Millis → Pid → Bool
  /-- The answer to a request to exit. -/
  stop : History → Millis → Pid → Delivery
  /-- The answer to a kill. -/
  kill : History → Millis → Pid → Delivery
  /-- The answer to the kill of what is left of a group. -/
  sweep : History → Millis → Pid → Delivery
  /-- When the bot exits if it is not contacted again, and with which status; or when waiting for
  it fails, and for which reason. -/
  exit? : History → Option (Millis × Except String ExitStatus)

/-- What a wait reacts to. -/
inductive Prompt where
  | bot
  | operator
  | clock
deriving DecidableEq, Repr

/-- Something that may end a wait. -/
structure Prospect where
  /-- Where it comes from. -/
  prompt : Prompt
  /-- When it happens. -/
  due : Millis
  /-- How the wait ends. -/
  wake : Wake

/-- The state of a timeline. -/
structure Timeline where
  now : Millis
  history : History := []
  /-- The instants at which the operator interrupts, those taken left out. -/
  coming : List Millis := []
  /-- When the operator goes away. -/
  closing? : Option Millis := none
  /-- When interrupts were taken. -/
  taken : List Millis := []
  /-- How many waits have ended. -/
  waits : Nat := 0
  /-- What is noticed first in each wait, of several things that happen at once. -/
  favours : Nat → Prompt

namespace Timeline

variable (F : Fate)

/-! ## Signals and time -/

/-- Records a contact. -/
def noted (w : Timeline) (c : Contact) : Timeline :=
  { w with history := w.history ++ [(w.now, c)] }

@[simp] lemma noted_now (w : Timeline) (c : Contact) : (w.noted c).now = w.now := rfl

@[simp] lemma noted_history (w : Timeline) (c : Contact) :
    (w.noted c).history = w.history ++ [(w.now, c)] := rfl

@[simp] lemma noted_taken (w : Timeline) (c : Contact) : (w.noted c).taken = w.taken := rfl

/-- The stop signals of a timeline. -/
def signals : StopSignals Timeline where
  isAlive pid w := (F.alive w.history w.now pid, w.noted (.alive pid (F.alive w.history w.now pid)))
  requestStop pid w := (F.stop w.history w.now pid, w.noted (.stop pid (F.stop w.history w.now pid)))
  forceKill pid w := (F.kill w.history w.now pid, w.noted (.kill pid (F.kill w.history w.now pid)))
  killLeftovers pid w :=
    (F.sweep w.history w.now pid, w.noted (.sweep pid (F.sweep w.history w.now pid)))

/-- The clock of a timeline. -/
def clock : Clock Timeline where
  now w := (w.now, w)
  sleep span w := .ok () { w with now := w.now + span }

/-! ## Waiting for the bot -/

/-- When a keeper that waits from now on notices the exit of the bot, and with which status, or
an error in its place.  An exit in the past is noticed at once. -/
def exit? (w : Timeline) : Option (Millis × Except String ExitStatus) :=
  (F.exit? w.history).map fun e => (max w.now e.1, e.2)

/-- How a wait is ended by the bot. -/
def exitWake : Except String ExitStatus → Wake
  | .ok status => .exited status
  | .error reason => .waitFailed reason

/-- When a keeper that listens from now on receives the next interrupt. -/
def interrupt? (w : Timeline) : Option Millis := w.coming.head?.map (max w.now)

/-- What the operator does next, as far as a wait that listens can tell. -/
def operatorProspect? (w : Timeline) : Option Prospect :=
  match w.coming with
  | t :: _ => some ⟨.operator, max w.now t, .interrupted⟩
  | [] => w.closing?.map fun t => ⟨.operator, max w.now t, .silenced⟩

/-- Everything that may end a wait. -/
def prospects (w : Timeline) (until? : Option Millis) (listens : Bool) : List Prospect :=
  ((w.exit? F).map fun e => ⟨.bot, e.1, exitWake e.2⟩).toList
    ++ (if listens then w.operatorProspect? else none).toList
    ++ (until?.map fun t => ⟨.clock, max w.now t, .timeUp⟩).toList

/-- Whether `p` is noticed before `q`. -/
def precedes (favour : Prompt) (p q : Prospect) : Bool :=
  p.due < q.due || p.due == q.due && (p.prompt == favour || q.prompt != favour)

/-- What is noticed first. -/
def first? (favour : Prompt) : List Prospect → Option Prospect
  | [] => none
  | p :: ps =>
    match first? favour ps with
    | none => some p
    | some q => if precedes favour p q then some p else some q

/-- The timeline after a wait that `p` has ended.  An interrupt is taken. -/
def after (w : Timeline) (p : Prospect) : Timeline :=
  if p.wake = .interrupted then
    { w with now := p.due, waits := w.waits + 1, coming := w.coming.tail, taken := w.taken ++ [p.due] }
  else
    { w with now := p.due, waits := w.waits + 1 }

/-- How the bot is waited for.  A wait that nothing will ever end goes on until the run is
dropped. -/
def watch : ChildWatch Timeline where
  wait until? listens w :=
    match first? (w.favours w.waits) (w.prospects F until? listens) with
    | none => .error .dropped w
    | some p => .ok p.wake (w.after p)
  arrivals w := (w.coming.length, w)

/-- A bot was launched, and nothing has happened since. -/
def opening (now : Millis) (coming : List Millis) (closing? : Option Millis)
    (favours : Nat → Prompt) : Timeline where
  now := now
  coming := coming
  closing? := closing?
  favours := favours

end Timeline

/-! ## The keeper on a timeline -/

/-- A launched bot in its surroundings, and how it is to be stopped. -/
structure Scene where
  fate : Fate
  pid : Pid
  command : LaunchCommand
  /-- When the bot was launched, in nanoseconds since the epoch. -/
  launchedAt : Int
  backoff : PollBackoff
  forceWait : Millis
  gracePeriod : Millis

namespace Scene

variable (s : Scene)

/-- How a process is stopped. -/
def terminator : Terminator Timeline where
  signals := Timeline.signals s.fate
  clock := Timeline.clock
  journal := .silent
  backoff := s.backoff
  forceWait := s.forceWait

/-- How the bot is seen through to its end. -/
def coordinator : ShutdownCoordinator Timeline where
  terminator := s.terminator
  gracePeriod := s.gracePeriod

/-- The bot as it was launched. -/
def bot : Handle Timeline where
  pid := s.pid
  command := s.command
  launchedAt := s.launchedAt
  state := .running
  watch := Timeline.watch s.fate

end Scene

/-! ## What was done -/

/-- The requests to exit in a history: when, to whom, and what came back. -/
def stops (history : History) : List (Millis × Pid × Delivery) :=
  history.filterMap fun
    | (t, .stop pid d) => some (t, pid, d)
    | _ => none

/-- The kills in a history. -/
def kills (history : History) : List (Millis × Pid × Delivery) :=
  history.filterMap fun
    | (t, .kill pid d) => some (t, pid, d)
    | _ => none

/-- The looks at whether a process is alive in a history. -/
def polls (history : History) : List (Millis × Pid × Bool) :=
  history.filterMap fun
    | (t, .alive pid a) => some (t, pid, a)
    | _ => none

/-- What can be observed of a bot that was seen through to its end. -/
structure Ending where
  /-- The signals that were sent, with their instants and answers. -/
  history : History
  /-- When the first interrupt was received. -/
  received? : Option Millis
  /-- The report, the last state of the bot and the instant of the return; none if the run went on
  until it was dropped. -/
  result? : Option (ShutdownReport × Lifecycle × Millis)

/-- How a run ended that sees a bot through to its end. -/
def ending : EStateM.Result Halt Timeline (ShutdownReport × Handle Timeline) → Ending
  | .ok (report, h) w => ⟨w.history, w.taken.head?, some (report, h.state, w.now)⟩
  | .error _ w => ⟨w.history, w.taken.head?, none⟩

end BotKeeper
