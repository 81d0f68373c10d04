/-
# Layers of settings

A settings file sets some keys and leaves the others alone.  A layer holds what one file
sets; laying it over settings replaces exactly those keys.
-/
import BotKeeper.Settings.Basic

namespace BotKeeper

/-- What a settings file says about supervision. -/
structure SupervisorLayer where
  gracePeriodSecs : Option UInt64 := none
  forceWaitSecs : Option UInt64 := none
  pollInitialMs : Option UInt64 := none
  pollCeilingMs : Option UInt64 := none
  reapPattern : Option String := none
deriving DecidableEq, Repr

/-- What a settings file says about npm. -/
structure NpmLayer where
  binary : Option SystemText := none
  requiredPackages : Option (List String) := none
deriving DecidableEq, Repr

/-- What a settings file says. -/
structure SettingsLayer where
  supervisor : SupervisorLayer := {}
  npm : NpmLayer := {}
deriving DecidableEq, Repr

namespace Settings

/-- Lays what a file says over the settings below it. -/
def overlay (base : Settings) (layer : SettingsLayer) : Settings where
  supervisor :=
    { gracePeriodSecs := layer.supervisor.gracePeriodSecs.getD base.supervisor.gracePeriodSecs
      forceWaitSecs := layer.supervisor.forceWaitSecs.getD base.supervisor.forceWaitSecs
      pollInitialMs := layer.supervisor.pollInitialMs.getD base.supervisor.pollInitialMs
      pollCeilingMs := layer.supervisor.pollCeilingMs.getD base.supervisor.pollCeilingMs
      reapPattern := layer.supervisor.reapPattern.or base.supervisor.reapPattern }
  npm :=
    { binary := layer.npm.binary.or base.npm.binary
      requiredPackages := layer.npm.requiredPackages.getD base.npm.requiredPackages }

@[simp] theorem overlay_empty (base : Settings) : base.overlay {} = base := rfl

end Settings

end BotKeeper
