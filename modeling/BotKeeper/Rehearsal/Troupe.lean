/-
# Scripted processes

In a rehearsal, processes act by script: when each dies, and how it answers requests to
stop.  What was asked of them and what they answered is kept line by line.
-/
import BotKeeper.Machine.Signal
import BotKeeper.Process.Signals

namespace BotKeeper.Rehearsal

/-- How a scripted process answers a request. -/
structure Plan where
  reply : Delivery := .delivered
  /-- How long it lives after the request, if it dies of it. -/
  diesAfter? : Option Millis := some 0
  /-- A signal that is sent along to the real group of its pid. -/
  signal? : Option Machine.Signal := none
deriving DecidableEq, Repr

/-- A scripted process. -/
structure Actor where
  /-- Its pid; none stands for any pid that no other actor has. -/
  pid? : Option Pid
  /-- When it dies; none if it does not. -/
  diesAt? : Option Millis := none
  graceful : Plan := {}
  force : Plan := {}
  /-- Whether something is left of its group when it has exited. -/
  leftovers : Bool := false
deriving DecidableEq, Repr

/-- The name of an actor in the trace. -/
def Actor.name (a : Actor) (pid : Pid) : String :=
  match a.pid? with
  | some _ => toString pid
  | none => "child"

/-- Whether an actor is alive at an instant. -/
def Actor.isAlive (a : Actor) (now : Millis) : Bool := a.diesAt?.all (now < ·)

/-- An actor to whom a request is made that may kill it. -/
def Actor.obey (a : Actor) (plan : Plan) (now : Millis) : Actor :=
  match plan.diesAfter? with
  | none => a
  | some span =>
    { a with diesAt? := some (match a.diesAt? with
        | none => now + span
        | some t => min t (now + span)) }

/-- The scripted processes and the trace of what they were asked, newest first. -/
structure Troupe where
  actors : List Actor := []
  trace : List String := []
deriving Repr

/-- A delivery as the trace shows it. -/
def deliveryWord : Delivery → String
  | .delivered => "delivered"
  | .noSuchProcess => "nosuch"
  | .unsupported => "unsupported"
  | .failed reason => "failed:" ++ reason

namespace Troupe

variable (t : Troupe)

/-- The actor of a pid. -/
def actor? (pid : Pid) : Option Actor :=
  (t.actors.find? (·.pid? == some pid)).or (t.actors.find? (·.pid? == none))

/-- Replaces the actor of a pid. -/
def replace (a : Actor) : Troupe :=
  { t with actors := t.actors.map fun b => if b.pid? == a.pid? then a else b }

/-- Adds a line to the trace. -/
def note (now : Millis) (call : String) (pid : Pid) (answer : String) : Troupe :=
  let name := ((t.actor? pid).map (·.name pid)).getD (toString pid)
  { t with trace := s!"{now} {call} {name} {answer}" :: t.trace }

/-- Whether a pid is alive. -/
def isAlive (now : Millis) (pid : Pid) : Bool := (t.actor? pid).any (·.isAlive now)

/-- Makes a request to a pid; yields the answer, the signal to send along and the troupe
afterwards.  `plan` picks how an actor answers it. -/
def request (now : Millis) (call : String) (plan : Actor → Plan) (pid : Pid) :
    Delivery × Option Machine.Signal × Troupe :=
  match t.actor? pid with
  | some a =>
    if a.isAlive now then
      let p := plan a
      (p.reply, p.signal?, (t.replace (a.obey p now)).note now call pid (deliveryWord p.reply))
    else (.noSuchProcess, none, t.note now call pid "nosuch")
  | none => (.noSuchProcess, none, t.note now call pid "nosuch")

/-- Asks for what is left of the group of a pid. -/
def leftovers (now : Millis) (pid : Pid) : Delivery × Troupe :=
  let delivery : Delivery :=
    if (t.actor? pid).any (·.leftovers) then .delivered else .unsupported
  (delivery, t.note now "leftovers" pid (deliveryWord delivery))

end Troupe

end BotKeeper.Rehearsal
