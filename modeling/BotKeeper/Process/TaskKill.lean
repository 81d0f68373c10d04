/-
# Stopping processes with another program

Where there are no signals a process is killed by a program of the system.  There is no
way to ask it to exit.
-/
import BotKeeper.Process.Programs
import BotKeeper.Process.Signals

namespace BotKeeper

variable {W : Type}

/-- What the kill of a process comes to, from the way the program ended. -/
def taskKillDelivery : Except SystemError ProgramOutput → Delivery
  | .error e => .failed s!"failed to run taskkill: {e.message}"
  | .ok result =>
    if result.status.success then .delivered
    else
      let complaints := Utf8.decodeLossy result.complaints
      if Text.contains complaints "not found" then .noSuchProcess
      else .failed s!"taskkill exited with {result.status.display}: {Text.trim complaints}"

/-- Stops processes and all they started with another program. -/
def taskKill (programs : Programs W) (journal : Log.Journal W) (isAlive : Pid → StateM W Bool) :
    StopSignals W where
  isAlive
  requestStop _ := return .unsupported
  forceKill pid := do
    let result ← programs.run (.text "taskkill") ["/T", "/F", "/PID", toString pid] none
    let delivery := taskKillDelivery result
    if delivery == .delivered then
      journal.debug .signals "taskkill succeeded" [("pid", .number pid.toNat)]
    return delivery
  killLeftovers _ := return .unsupported

end BotKeeper
