/-
# Stop requests

A process is stopped through a capability chosen once: it can be asked to exit, it can be
killed, its liveness can be observed, and what is left of its group can be killed.  The
capability acts on a world of any type, so the logic above it is the same for real
processes and for scripted ones.
-/
import BotKeeper.Process.Basic

namespace BotKeeper

/-- What happened to a stop request. -/
inductive Delivery where
  /-- It was sent. -/
  | delivered
  /-- No process has that identifier. -/
  | noSuchProcess
  /-- There is no way to express the request. -/
  | unsupported
  /-- Sending failed. -/
  | failed (reason : String)
deriving DecidableEq, Repr

/-- The capability to observe and stop processes in a world `W`. -/
structure StopSignals (W : Type) where
  /-- Whether a process exists and is no zombie. -/
  isAlive : Pid → StateM W Bool
  /-- Asks a process to exit. -/
  requestStop : Pid → StateM W Delivery
  /-- Kills a process. -/
  forceKill : Pid → StateM W Delivery
  /-- Kills what is left of the group an exited process led. -/
  killLeftovers : Pid → StateM W Delivery

end BotKeeper
