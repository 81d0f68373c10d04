/-
# Locating npm

A configured npm counts if its path leads to something or if it can be found by its name;
otherwise npm is looked up by its usual name.
-/
import BotKeeper.Disk.Files
import BotKeeper.Process.Programs

namespace BotKeeper

open Log

/-- The usual name of npm. -/
def npmName : String := "npm"

variable {W : Type}

/-- Whether a configured npm can be used. -/
def isUsableNpm (files : Files W) (programs : Programs W) (path : SystemText) : StateM W Bool := do
  if ← files.isPresent path.display then return true
  programs.isAvailable path.display

/-- The npm to use, if there is one. -/
def findNpm (files : Files W) (programs : Programs W) (journal : Journal W)
    (configured? : Option SystemText) : StateM W (Option SystemText) := do
  if let some path := configured? then
    if ← isUsableNpm files programs path then
      return some path
    journal.debug .npm "Configured npm not found, falling back to PATH"
      [("path", .plain path.display)]
  if ← programs.isAvailable npmName then return some (.text npmName)
  return none

end BotKeeper
