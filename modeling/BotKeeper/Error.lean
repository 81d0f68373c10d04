/-
# Errors of the keeper

What can go wrong between reading settings and stopping the bot, with one wording each.
-/
import BotKeeper.Disk.Error
import BotKeeper.Json.Cursor
import BotKeeper.Pattern.Error
import BotKeeper.Process.Basic
import BotKeeper.Text.Blank

namespace BotKeeper

/-- An error of the keeper. -/
inductive KeeperError where
  /-- Files of the project are missing or still hold placeholders. -/
  | configMissing (detail : String)
  /-- npm or packages are missing. -/
  | dependencyMissing (detail : String)
  /-- The sources of the bot could not be built. -/
  | buildFailed (detail : String)
  /-- The bot could not be started. -/
  | launchFailed (command reason : String)
  /-- The processes could not be listed. -/
  | enumerationFailed (reason : String)
  /-- A process survived its kill. -/
  | terminationFailed (pid : Pid) (reason : String)
  /-- A pattern for processes is refused. -/
  | pattern (text : String) (refusal : Pattern.Refusal)
  /-- The settings cannot be used. -/
  | settings (detail : String)
  /-- A record cannot be understood. -/
  | json (fault : Json.Fault)
  /-- An operation on a file failed. -/
  | file (error : SystemError)
deriving DecidableEq, Repr

/-- The wording of an error. -/
def KeeperError.message : KeeperError → String
  | configMissing detail => s!"Configuration missing: {detail}"
  | dependencyMissing detail => s!"Dependency missing: {detail}"
  | buildFailed detail => s!"Build failed: {detail}"
  | launchFailed command reason => s!"Failed to launch `{command}`: {reason}"
  | enumerationFailed reason => s!"Failed to enumerate processes: {reason}"
  | terminationFailed pid reason => s!"Process {pid} could not be terminated: {reason}"
  | pattern text refusal => s!"Invalid process pattern: {refusal.message text}"
  | settings detail => s!"Configuration error: {detail}"
  | json fault => s!"JSON error: {fault.message}"
  | file error => s!"I/O error: {error.message}"

/-! ## Errors in context -/

/-- An error with the circumstances it arose in, outermost first. -/
structure Failure where
  causes : List String
deriving DecidableEq, Repr

namespace Failure

/-- The circumstances in one line. -/
def message (f : Failure) : String := Text.joined ": " f.causes

/-- A failure seen from further out. -/
def within (f : Failure) (circumstance : String) : Failure := ⟨circumstance :: f.causes⟩

end Failure

/-- The error as a failure.  An error that wraps another one names it as its cause. -/
def KeeperError.toFailure (e : KeeperError) : Failure :=
  let inner := match e with
    | .pattern text refusal => [refusal.message text]
    | .json fault => [fault.message]
    | .file error => [error.message]
    | _ => []
  ⟨e.message :: inner⟩

end BotKeeper
