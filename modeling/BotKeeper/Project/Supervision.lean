/-
# Running the bot of a project

A project's bot is run in one session whose configuration comes from the settings of the
project.
-/
import BotKeeper.Project.Commands
import BotKeeper.Session.Run

namespace BotKeeper

variable {W : Type}

/-- The exit code of one session.  A session that was dropped has none. -/
def Session.code (session : Session W) (config : SessionConfig W) :
    StateM W (Except Failure UInt8) := fun w =>
  match session.run config w with
  | .ok exit w => (.ok exit.code, w)
  | .error _ w => (.error ⟨["the session was dropped"]⟩, w)

/-- Runs the bot of a project in one session, configured from settings.  `listen` starts and
stops taking signals as interrupts, which is done as long as the session lasts. -/
def Session.supervisor (session : Session W) (files : Files W) (journal : Log.Journal W)
    (listen : Bool → StateM W Unit) (projectDir : String) (settings : SupervisorSettings) :
    Supervisor W := fun command => do
  match ← SessionConfig.ofSettings files journal command projectDir settings with
  | .error e => return .error (e.toFailure.within "invalid supervisor settings")
  | .ok config =>
    listen true
    let code ← session.code config
    listen false
    return code

end BotKeeper
