/-
# Contacts with processes

One use of the stop signals together with what came back: the entries of every trace of signal
calls.
-/
import BotKeeper.Process.Signals
import Mathlib.Tactic.Common

namespace BotKeeper

/-- A call of a stop signal and its answer. -/
inductive Contact where
  /-- The process was looked at. -/
  | alive (pid : Pid) (answer : Bool)
  /-- The process was asked to exit. -/
  | stop (pid : Pid) (answer : Delivery)
  /-- The process was killed. -/
  | kill (pid : Pid) (answer : Delivery)
  /-- What is left of the group of the process was killed. -/
  | sweep (pid : Pid) (answer : Delivery)
deriving DecidableEq, Repr

namespace Contact

/-- The process that was contacted. -/
def pid : Contact → Pid
  | alive pid _ | stop pid _ | kill pid _ | sweep pid _ => pid

/-- Whether the answer shows that there is no such process. -/
def misses : Contact → Bool
  | alive _ answer => !answer
  | stop _ answer | kill _ answer | sweep _ answer => answer == .noSuchProcess

end Contact

/-- Whether the request can take effect: it was sent, or there is nobody left to get it. -/
def Delivery.arrived : Delivery → Bool
  | .delivered | .noSuchProcess => true
  | .unsupported | .failed _ => false

end BotKeeper
